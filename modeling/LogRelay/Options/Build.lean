import LogRelay.Number.Numeral
import LogRelay.Options.Config
import LogRelay.Options.Fault
import LogRelay.Options.Key
import LogRelay.Options.Value

/-!
# From values to a configuration

Each option takes a value of any kind and reads it in its own way: as a whole number, as a number, as a
truth value, as the name of a level, or as a text, which every value has that can be shown. A null leaves
the option out.
The options of a remote host come together or not at all.
-/

namespace LogRelay

open Options (Value)

/-- What a value is as a number. -/
inductive AsNumber (Number : Type) where
  | number (number : Number)
  | invalid
  | unbounded

namespace OptionValue

/-- The text of some bytes for a reader of numbers, to whom a byte beyond ASCII is none of a number. -/
def asciiText (bytes : List UInt8) : String :=
  String.ofList (bytes.map fun byte => if byte < 128 then Char.ofNat byte.toNat else '?')

/-- A value as a whole number. The part of a number behind the point is left off. -/
def toInteger : Value → AsNumber Int
  | .flag value => .number (if value then 1 else 0)
  | .integer number => .number number
  | .double number =>
      if number.isNaN then .invalid
      else if number.isInfinite then .unbounded
      else .number number.wholePart
  | .text written => (Numeral.readInt? written.shown).elim .invalid .number
  | .bytes written => (Numeral.readInt? (asciiText written)).elim .invalid .number
  | _ => .invalid

/-- A value as a number. -/
def toDouble : Value → AsNumber Double
  | .flag value => .number (if value then Double.one else Double.zero false)
  | .integer number => (Double.ofInt? number).elim .unbounded .number
  | .double number => .number number
  | .text written => (Numeral.readDouble? written.shown).elim .invalid .number
  | .bytes written => (Numeral.readDouble? (asciiText written)).elim .invalid .number
  | _ => .invalid

/-- A value as a text. -/
def toText (value : Value) : Except OptionFault Wording :=
  value.plain.mapError .unshown

/-- A value as a message shows it. -/
def toQuoted (value : Value) : Except OptionFault Wording :=
  value.quoted.mapError .unshown

/-- A value as a whole number that is not below a least one. -/
def integer (name : String) (least : Option Int) (value : Value) : Except OptionFault Int := do
  match toInteger value with
  | .unbounded => throw .unbounded
  | .invalid => throw (.notInteger name (← toQuoted value))
  | .number number =>
      match least with
      | some bound =>
          if number < bound then
            let _ ← toText (.integer number)
            throw (.belowInteger name bound number)
          pure number
      | none => pure number

/-- A value as a number that is not below a least one. What is no number is below none. -/
def double (name : String) (least : Double) (value : Value) : Except OptionFault Double := do
  match toDouble value with
  | .unbounded => throw .unbounded
  | .invalid => throw (.notNumber name (← toQuoted value))
  | .number number =>
      if number.less least then throw (.belowDouble name least number)
      pure number

/-- A value as a truth value: one of three words, in any case and with blanks around, for true. -/
def flag (value : Value) : Except OptionFault Bool := do
  match value with
  | .flag given => pure given
  | other =>
      let word := (Text.trimBlanks (← toText other).shown).map Char.toLower
      pure (word == "true" || word == "1" || word == "yes")

/-- A size in kilobytes as a size in bytes. The least size is one kilobyte. -/
def sizeInBytes (value : Value) : Except OptionFault Int := do
  pure (max 1 (← integer "log_size" none value) * 1024)

/-- A value as a port. -/
def port (value : Value) : Except OptionFault Int := do
  let number ← integer "remote_port" (some 1) value
  if 65535 < number then
    let _ ← toText (.integer number)
    throw (.portTooGreat number)
  pure number

/-- The names of levels. -/
def levelNames : List String :=
  ["CRITICAL", "FATAL", "ERROR", "WARN", "WARNING", "INFO", "DEBUG", "NOTSET"]

/-- The capital letter of a letter of ASCII. The dotless i and the long s have one there, too. -/
def capital (char : Char) : Char :=
  if char = 'ı' then 'I' else if char = 'ſ' then 'S' else char.toUpper

/-- A text as it would name a level: in capital letters and without blanks around. -/
def levelWord (text : Wording) : String :=
  (Text.trimBlanks text.shown).map capital

/-- A value as the name of a level, in any case and with blanks around. -/
def level (value : Value) : Except OptionFault String := do
  let word := levelWord (← toText value)
  if levelNames.contains word then pure word else throw (.unknownLevel (← toQuoted value))

end OptionValue

namespace WordedConfig

open OptionValue

/-- The configuration with an option read from a value. -/
def assign (config : WordedConfig) (key : Key) (value : Value) : Except OptionFault WordedConfig :=
  match key with
  | .socketPath => do pure { config with socketPath := ← toText value }
  | .lines => do pure { config with lines := ← integer "lines" (some 0) value }
  | .filterPattern => do pure { config with filterPattern := some (← toText value) }
  | .remoteHost => do pure { config with remoteHost := some (← toText value) }
  | .remotePort => do pure { config with remotePort := some (← port value) }
  | .udp => do pure { config with udp := ← flag value }
  | .nullTrailer => do pure { config with nullTrailer := ← flag value }
  | .logFile => do pure { config with logFile := some (← toText value) }
  | .logSize => do pure { config with logSize := ← sizeInBytes value }
  | .pidFile => do pure { config with pidFile := some (← toText value) }
  | .hostname => do pure { config with hostname := some (← toText value) }
  | .prefixText => do pure { config with prefixText := some (← toText value) }
  | .timestamp => do pure { config with timestamp := ← flag value }
  | .template => do pure { config with template := some (← toText value) }
  | .follow => do pure { config with follow := ← flag value }
  | .retryDelay => do
      pure { config with retryDelay := ← double "retry_delay" Double.thousandth value }
  | .statsInterval => do
      pure { config with statsInterval := ← double "stats_interval" (Double.zero false) value }
  | .logLevel => do pure { config with logLevel := ← level value }

/-- The configuration with the option of a name read from a value. The text of a value without an
option is made, and of no use. -/
def assignNamed (config : WordedConfig) (name : String) (value : Value) :
    Except OptionFault WordedConfig :=
  match Key.ofName? name with
  | some key => config.assign key value
  | none => do
      let _ ← toText value
      pure config

end WordedConfig

namespace Config

open OptionValue

/-- Whether a value leaves its option out. -/
def isAbsent : Value → Bool
  | .null => true
  | _ => false

/-- The configuration that values by name make, read in their order. -/
def build (values : List (String × Value)) : Except OptionFault WordedConfig := do
  let given := values.filter fun (_, value) => !isAbsent value
  let config ← given.foldlM (fun config (name, value) => config.assignNamed name value)
    ({} : WordedConfig)
  if config.remoteHost.isSome != config.remotePort.isSome then throw .unpaired
  match given.find? fun (name, _) => (Key.ofName? name).isNone with
  | some (name, _) => throw (.unknownOption name)
  | none => pure config

end Config

end LogRelay
