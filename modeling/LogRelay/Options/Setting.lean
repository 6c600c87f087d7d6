import LogRelay.Options.Config
import LogRelay.Options.Key
import LogRelay.Options.Value

/-!
# What a configuration says about an option

Every option of a configuration is a value again, null for one that is left out.
-/

namespace LogRelay

open Options (Value)

namespace WordedConfig

/-- A text that may be left out, as a value. -/
def textValue (text : Option Wording) : Value := text.elim .null .text

/-- What the configuration says about an option. -/
def setting (config : WordedConfig) : Key → Value
  | .socketPath => .text config.socketPath
  | .lines => .integer config.lines
  | .filterPattern => textValue config.filterPattern
  | .remoteHost => textValue config.remoteHost
  | .remotePort => config.remotePort.elim .null .integer
  | .udp => .flag config.udp
  | .nullTrailer => .flag config.nullTrailer
  | .logFile => textValue config.logFile
  | .logSize => .integer config.logSize
  | .pidFile => textValue config.pidFile
  | .hostname => textValue config.hostname
  | .prefixText => textValue config.prefixText
  | .timestamp => .flag config.timestamp
  | .template => textValue config.template
  | .follow => .flag config.follow
  | .retryDelay => .double config.retryDelay
  | .statsInterval => .double config.statsInterval
  | .logLevel => .text config.logLevel

end WordedConfig

end LogRelay
