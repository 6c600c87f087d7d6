import LogRelay.Text.Wording

/-!
# Names of options

Every option has a name, which a configuration file uses as it is and the environment in capital
letters behind a common beginning.
-/

namespace LogRelay

/-- The options of a run. -/
inductive Key where
  | socketPath
  | lines
  | filterPattern
  | remoteHost
  | remotePort
  | udp
  | nullTrailer
  | logFile
  | logSize
  | pidFile
  | hostname
  | prefixText
  | timestamp
  | template
  | follow
  | retryDelay
  | statsInterval
  | logLevel
  deriving DecidableEq, Repr

namespace Key

/-- All options, in their order. -/
def all : List Key :=
  [socketPath, lines, filterPattern, remoteHost, remotePort, udp, nullTrailer, logFile, logSize,
    pidFile, hostname, prefixText, timestamp, template, follow, retryDelay, statsInterval, logLevel]

/-- The name of an option. -/
def name : Key → String
  | socketPath => "socket_path"
  | lines => "lines"
  | filterPattern => "filter_pattern"
  | remoteHost => "remote_host"
  | remotePort => "remote_port"
  | udp => "udp"
  | nullTrailer => "null_trailer"
  | logFile => "log_file"
  | logSize => "log_size"
  | pidFile => "pid_file"
  | hostname => "hostname"
  | prefixText => "prefix"
  | timestamp => "timestamp"
  | template => "template"
  | follow => "follow"
  | retryDelay => "retry_delay"
  | statsInterval => "stats_interval"
  | logLevel => "log_level"

/-- The option with a name. -/
def ofName? (name : String) : Option Key :=
  all.find? fun key => key.name == name

/-- The option with a name from outside. -/
def ofWording? (name : Wording) : Option Key :=
  name.text?.bind ofName?

/-- The name of an option in the environment. -/
def environmentName (key : Key) : String :=
  "LOGREAD_" ++ String.ofList (key.name.toList.map Char.toUpper)

end Key

end LogRelay
