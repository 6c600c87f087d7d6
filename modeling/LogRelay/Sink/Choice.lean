import LogRelay.Options.Config
import LogRelay.Sink.File
import LogRelay.Sink.Network
import LogRelay.Sink.Standard

/-!
# The sink of a configuration

A run has one sink of one of three kinds. A file is opened at once, and a link begins to look for a
socket after its first delay.
-/

namespace LogRelay

/-- A sink of any kind. -/
inductive Sink where
  | standard (sink : StandardSink)
  | file (sink : FileSink)
  | network (link : Link)

namespace SinkStep

variable {State Other Result : Type}

/-- A step of one machine as a step of another. -/
def mapState (step : SinkStep State Result) (embed : State → Other) : SinkStep Other Result :=
  ⟨embed step.state, step.result, step.journal, step.bumps⟩

end SinkStep

namespace Sink

/-- A sink with the disk that holds files and the standard output. -/
abbrev State := Sink × Disk

/-- How a configuration has its link behave. What a template makes keeps a trailer of its own. -/
def linkOptions (config : Config) (host : String) (port : Int) : LinkOptions :=
  { host := host
    port := port
    udp := config.udp
    nullTrailer := config.nullTrailer
    keepTrailer := config.template.isSome
    retryDelay := config.retryDelay }

/-- The sink of a configuration, given the descriptor of the standard output. -/
def ofConfig (config : Config) (output : Nat) (disk : Disk) : SinkStep State Unit :=
  match config.sinkKind with
  | .standardOutput => .done (.standard ⟨output⟩, disk) ()
  | .file path =>
      (FileSink.openFile (.closed path config.logSize, disk)).mapState
        fun (sink, disk) => (.file sink, disk)
  | .network host port =>
      .done (.network (Link.idle (linkOptions config host port) .none).start, disk) ()

/-- Whether the sink takes texts now. -/
def isConnected : Sink → Bool
  | standard _ => true
  | file sink => sink.isConnected
  | network link => link.isConnected

/-- Takes a text. -/
def write (state : State) (text : String) : SinkStep State Bool :=
  match state with
  | (standard sink, disk) =>
      (StandardSink.write (sink, disk) text).mapState fun (sink, disk) => (.standard sink, disk)
  | (file sink, disk) =>
      (FileSink.write (sink, disk) text).mapState fun (sink, disk) => (.file sink, disk)
  | (network link, disk) => (link.write text).mapState fun link => (.network link, disk)

/-- Closes the sink. The standard output stays open. -/
def close (state : State) : SinkStep State Unit :=
  match state with
  | (standard sink, disk) => .done (.standard sink, disk) ()
  | (file sink, disk) =>
      (FileSink.close (sink, disk)).mapState fun (sink, disk) => (.file sink, disk)
  | (network link, disk) => link.close.mapState fun link => (.network link, disk)

/-- The sink as the delivery sees it. -/
def machine : SinkMachine State := ⟨fun state => state.1.isConnected, write⟩

end Sink

end LogRelay
