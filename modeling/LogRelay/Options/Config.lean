import LogRelay.Number.Double
import LogRelay.Text.Wording

/-!
# The configuration

All that a run is told before it begins. Where something is left out, the defaults hold. Texts from
outside come in any wording, and a run is told them if they are texts indeed.
-/

namespace LogRelay

/-- Where rendered events go. -/
inductive SinkKind where
  | standardOutput
  | file (path : String)
  | network (host : String) (port : Int)
  deriving DecidableEq, Repr

namespace SinkKind

/-- The name of a kind of sink. -/
def name : SinkKind → String
  | standardOutput => "stdout"
  | file _ => "file"
  | network _ _ => "network"

end SinkKind

/-- The options of a run that hold no texts from outside. -/
@[ext]
structure PlainOptions where
  lines : Int := 0
  remotePort : Option Int := none
  udp : Bool := false
  nullTrailer : Bool := false
  /-- The size in bytes beyond which the log file is rotated, zero for never. -/
  logSize : Int := 0
  timestamp : Bool := false
  follow : Bool := false
  /-- The seconds from one attempt to connect to the next. -/
  retryDelay : Double := Double.one
  /-- The seconds from one report to the next, zero for no reports. -/
  statsInterval : Double := Double.zero false
  logLevel : String := "INFO"
  deriving DecidableEq

/-- The options of a run. -/
structure Config extends PlainOptions where
  socketPath : String := "/var/run/logd.sock"
  filterPattern : Option String := none
  remoteHost : Option String := none
  logFile : Option String := none
  pidFile : Option String := none
  hostname : Option String := none
  prefixText : Option String := none
  template : Option String := none
  deriving DecidableEq

/-- The options of a run in the wordings in which they were given. -/
structure WordedConfig extends PlainOptions where
  socketPath : Wording := "/var/run/logd.sock"
  filterPattern : Option Wording := none
  remoteHost : Option Wording := none
  logFile : Option Wording := none
  pidFile : Option Wording := none
  hostname : Option Wording := none
  prefixText : Option Wording := none
  template : Option Wording := none
  deriving DecidableEq

namespace WordedConfig

/-- All wordings of the options. -/
def wordings (config : WordedConfig) : List Wording :=
  config.socketPath :: [config.filterPattern, config.remoteHost, config.logFile, config.pidFile,
    config.hostname, config.prefixText, config.template].flatMap Option.toList

/-- The options with what is shown for the wordings. -/
def shown (config : WordedConfig) : Config where
  toPlainOptions := config.toPlainOptions
  socketPath := config.socketPath.shown
  filterPattern := config.filterPattern.map Wording.shown
  remoteHost := config.remoteHost.map Wording.shown
  logFile := config.logFile.map Wording.shown
  pidFile := config.pidFile.map Wording.shown
  hostname := config.hostname.map Wording.shown
  prefixText := config.prefixText.map Wording.shown
  template := config.template.map Wording.shown

/-- The options in texts, if all wordings are texts. -/
def config? (config : WordedConfig) : Option Config :=
  if config.wordings.all Wording.isText then some config.shown else none

end WordedConfig

namespace Config

/-- Where rendered events go: to the network if both host and port are given, else to the file if one
is given. Empty texts and the port zero count as not given. -/
def sinkKind (config : Config) : SinkKind :=
  match config.remoteHost, config.remotePort, config.logFile with
  | some host, some port, file =>
      if host ≠ "" ∧ port ≠ 0 then .network host port
      else match file with
        | some path => if path ≠ "" then .file path else .standardOutput
        | none => .standardOutput
  | _, _, some path => if path ≠ "" then .file path else .standardOutput
  | _, _, none => .standardOutput

end Config

end LogRelay
