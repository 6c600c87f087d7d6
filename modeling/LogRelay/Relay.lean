import LogRelay.Filter
import LogRelay.Render.Formatter
import LogRelay.Sink.Choice
import LogRelay.Source.Script
import LogRelay.Stats.Reporter

/-!
# One run of the relay

A run opens its sink, makes filter and formatter, and lets a client of the log source feed the delivery
until the delivery is finished. Then it sees the client to its end, closes the sink, stops the reports
and tells what has been counted. What finished the delivery decides how the run ends.

A run does not end if its delivery is never finished. It ends without closing its sink if there can be
no filter, or if the client ends in a failure of its own.
-/

namespace LogRelay

/-- What a run finds around it. -/
structure World where
  disk : Disk
  /-- The descriptor of the standard output. -/
  output : Nat
  /-- The number of the process. -/
  process : Nat

namespace World

/-- The world with a disk and a standard output to which nothing has been written. -/
def ofDisk (disk : Disk) (process : Nat) : World :=
  let (disk, output) := disk.openNameless
  ⟨disk, output, process⟩

/-- What has been written to the standard output. -/
def written (world : World) : List UInt8 :=
  StandardSink.written (⟨world.output⟩, world.disk)

end World

/-- Why a run fails. -/
inductive RelayFault where
  /-- What finished the delivery. -/
  | delivery (failure : Failure)
  /-- A filter that cannot be made. -/
  | pattern (fault : Pattern.Fault)
  /-- A request that cannot be made. -/
  | request (fault : Blob.Fault)
  /-- A failure that nothing deals with. -/
  | escaped (fault : SystemFault)

namespace RelayFault

/-- A failure of the sink as a failure of the run. -/
def ofSink : SinkFault → RelayFault
  | .unopened fault => delivery (.unopened fault)
  | .escaped fault => escaped fault

end RelayFault

/-- A run that is over, or never will be. -/
structure RelayRun where
  /-- How the run ended, none if it never does. -/
  result : Option (Except RelayFault Unit)
  world : World
  stats : Stats
  journal : Journal
  /-- The sink as the run left it, if there was one. -/
  sink : Option Sink
  /-- How many times the sink was closed. -/
  closings : Nat
  reporter : Reporter
  /-- What became of the client, if there was one. -/
  played : Option (Played Sink.State)

/-- A run whose sink is open and whose client is to begin. -/
structure Session where
  keeper : Keeper Sink.State
  sink : Sink.State
  world : World
  reporter : Reporter
  journal : Journal

namespace Relay

/-! ## Before the client -/

/-- A run that fails before its client begins. -/
def broken (world : World) (journal : Journal) (fault : RelayFault) : RelayRun :=
  ⟨some (.error fault), world, .fresh, journal, none, 0, .idle, none⟩

/-- Writes the number of the process to a file. A failure of the operating system is noted only. -/
def writeNumber (world : World) (path : String) : Except SystemFault World × Journal :=
  match world.disk.overwrite path (Utf8.encode (toString world.process)) with
  | .ok disk => (.ok { world with disk := disk }, [])
  | .error fault =>
      if fault.isSystem then
        (.ok world, [⟨.warning, .relay, "Failed to write PID file " ++ path ++ ": " ++
          (fault.about [path]).message⟩])
      else (.error fault, [])

/-- Leaves the number of the process where a run that follows the stream is told to. -/
def announce (config : Config) (world : World) : Except SystemFault World × Journal :=
  match config.pidFile with
  | some path => if config.follow && path != "" then writeNumber world path else (.ok world, [])
  | none => (.ok world, [])

/-- How the client of a run reaches the source. -/
def clientOptions (config : Config) : ClientOptions :=
  { path := config.socketPath, lines := config.lines, follow := config.follow }

/-- The entry about a request to stop. -/
def stopEntry : Entry := ⟨.info, .relay, "Shutdown requested"⟩

/-- The reports of a run, which begin at once if there are to be any. -/
def reporter (config : Config) : Reporter :=
  if (Double.zero false).less config.statsInterval then Reporter.idle.start else .idle

/-- Makes filter and formatter for an open sink. Without a filter the sink stays open. -/
def equip (config : Config) (world : World) (sink : Sink.State) (journal : Journal) :
    Except RelayRun Session :=
  match Filter.ofText config.filterPattern with
  | .error fault => .error { broken world journal (.pattern fault) with sink := some sink.1 }
  | .ok (filter, notes) =>
      let (formatter, more) := Formatter.ofConfig config
      .ok ⟨⟨clientOptions config,
          ⟨filter.accepts, formatter.render, Sink.machine, config.follow⟩, [stopEntry]⟩,
        sink, world, reporter config, journal ++ notes ++ more⟩

/-- Opens the sink of a run. -/
def openSink (config : Config) (world : World) (journal : Journal) : Except RelayRun Session :=
  let opened := Sink.ofConfig config world.output world.disk
  let journal := journal ++ opened.journal
  match opened.result with
  | .ok () => equip config { world with disk := opened.state.2 } opened.state journal
  | .error fault => .error (broken world journal (.ofSink fault))

/-- Prepares a run for its client. -/
def prepare (config : Config) (world : World) : Except RelayRun Session :=
  match announce config world with
  | (.ok world, journal) => openSink config world journal
  | (.error fault, journal) => .error (broken world journal (.escaped fault))

/-! ## After the client -/

/-- The entry at the end of a run. -/
def finalEntry (stats : Stats) : Entry :=
  ⟨.info, .relay, "Shipper finished: " ++ stats.totals.line⟩

/-- Closes the sink, stops the reports and tells what has been counted. -/
def release (run : RelayRun) (delivery : Delivery Sink.State) : RelayRun :=
  let closed := Sink.close delivery.sink
  let released := { run with
    world := { run.world with disk := closed.state.2 }
    sink := some closed.state.1
    closings := run.closings + 1 }
  match closed.result with
  | .error fault => { released with result := some (.error (.ofSink fault)) }
  | .ok () =>
      { released with
        result := some (match delivery.failure with
          | some failure => .error (.delivery failure)
          | none => .ok ())
        reporter := run.reporter.stop
        journal := run.journal ++ [finalEntry delivery.stats] }

/-- The delivery when its client has ended. A source that could not be reached finishes it. -/
def settle {State : Type} (options : ClientOptions) (ending : Ending) (delivery : Delivery State) :
    Delivery State :=
  match ending with
  | .unavailable => delivery.stop (some (.unavailable options.path options.attempts))
  | _ => delivery

/-- A run whose client has come to its end, or waits for something that never comes about. -/
def afterClient (session : Session) (played : Played Sink.State) : RelayRun :=
  let delivery := played.client.delivery
  ⟨none, { session.world with disk := delivery.sink.2 }, delivery.stats,
    session.journal ++ played.journal, some delivery.sink.1, 0, session.reporter, some played⟩

/-- Sees a run to its end. It has none as long as its delivery is not finished. -/
def conclude (session : Session) (played : Played Sink.State) : RelayRun :=
  let run := afterClient session played
  match played.client.phase with
  | .ended ending =>
      let delivery := settle session.keeper.options ending played.client.delivery
      if delivery.finished then
        match ending with
        | .escaped fault => { run with result := some (.error (.escaped fault)) }
        | .unfit fault => { run with result := some (.error (.request fault)) }
        | .returned | .unavailable | .cancelled => release run delivery
      else run
  | _ => run

/-- One run of the relay. -/
def run (config : Config) (world : World) (script : Script) : RelayRun :=
  match prepare config world with
  | .ok session => conclude session (session.keeper.play (.start session.sink) script)
  | .error run => run

end Relay

end LogRelay
