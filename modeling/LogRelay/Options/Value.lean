import LogRelay.Number.Numeral
import LogRelay.Number.Shortest
import LogRelay.Text.Wording

/-!
# Values for options

An option takes a value of any kind. Nulls, truth values, numbers, texts and bytes are read as what they
are. Of any other value, such as a collection or a day, nothing is known but how it is shown: a
collection decides by itself in which order it shows its members, and one that holds too many others
inside each other cannot be shown at all.

A value is shown in two ways: by itself, where a text stands as it is, and quoted, as a message shows it.
-/

namespace LogRelay.Options

/-- Why a value cannot be shown. -/
inductive ShowFault where
  /-- A whole number has too many digits. -/
  | tooManyDigits
  /-- Too many values are inside each other. -/
  | tooDeep
  deriving DecidableEq, Repr

/-- A value that no option reads as anything but a text. -/
structure Thing where
  /-- The value by itself. -/
  plain : Except ShowFault Wording
  /-- The value as a message shows it. -/
  quoted : Except ShowFault Wording

/-- A value for an option. -/
inductive Value where
  | null
  | flag (value : Bool)
  | integer (number : Int)
  | double (number : Double)
  | text (text : Wording)
  | bytes (bytes : List UInt8)
  | thing (thing : Thing)
  deriving Inhabited

namespace Value

/-- A list without items. -/
def emptyList : Value := .thing ⟨.ok "[]", .ok "[]"⟩

/-- The value as a message shows it. A whole number is shown if it does not have too many digits. -/
def quoted : Value → Except ShowFault Wording
  | null => .ok "None"
  | flag true => .ok "True"
  | flag false => .ok "False"
  | integer number =>
      if Nat.pow 10 Numeral.digitLimit ≤ number.natAbs then .error .tooManyDigits
      else .ok (toString number : String)
  | double number => .ok number.render
  | text written => .ok written.quoted
  | bytes written => .ok (Text.quotedBytes written)
  | thing known => known.quoted

/-- The value by itself. -/
def plain : Value → Except ShowFault Wording
  | text written => .ok written
  | thing known => known.plain
  | value => value.quoted

/-- The text that a value is. -/
def text? : Value → Option Wording
  | text written => some written
  | _ => none

end Value

end LogRelay.Options
