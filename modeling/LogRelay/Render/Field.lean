/-!
# Fields of a template

The values of an event that a template can name, their placeholders and the leftmost one of a text, and
why an event may have no text.
-/

namespace LogRelay

/-- The values of an event that a template can name. -/
inductive Field where
  | message
  | priority
  | source
  | timestamp
  | rfc3339
  deriving DecidableEq, Repr

namespace Field

/-- All fields, in the order in which their placeholders are tried. -/
def all : List Field := [message, priority, source, timestamp, rfc3339]

/-- The placeholder of a field. -/
def placeholder : Field → String
  | message => "%message%"
  | priority => "%priority%"
  | source => "%source%"
  | timestamp => "%timestamp%"
  | rfc3339 => "%rfc3339%"

/-- The first place where a part stands in a text, counted from a start. -/
def find? (part : List Char) (start : Nat) : (text : List Char) → Option Nat
  | [] => if part.isEmpty then some start else none
  | char :: rest =>
      if part.isPrefixOf (char :: rest) then some start else find? part (start + 1) rest

/-- The one of two hits that is further left, the earlier hit if they are at one place. -/
def nearer (hit next : Option (Nat × Field)) : Option (Nat × Field) :=
  match hit, next with
  | none, next => next
  | hit, none => hit
  | some (place, field), some (other, named) =>
      if other < place then some (other, named) else some (place, field)

/-- The leftmost placeholder of a text, with its place. Each field is looked for in the whole text. -/
def leftmost? (text : List Char) : Option (Nat × Field) :=
  all.foldl (fun hit field =>
    nearer hit ((find? field.placeholder.toList 0 text).map fun place => (place, field))) none

theorem mem_all (field : Field) : field ∈ all := by
  cases field <;> decide

theorem length_placeholder_pos (field : Field) : 0 < field.placeholder.length := by
  cases field <;> decide

end Field

/-- Why an event has no text. -/
inductive RenderFault where
  /-- The time, in seconds, has no text of the wanted kind. -/
  | outOfRange (seconds : Int)
  /-- A template alone is longer than a rendered text may be. -/
  | longTemplate
  /-- A template with some placeholders filled in is longer than a rendered text may be. -/
  | longText
  deriving DecidableEq, Repr

namespace RenderFault

/-- The message of a fault. -/
def message : RenderFault → String
  | outOfRange seconds => "timestamp " ++ toString seconds ++ " out of range"
  | longTemplate => "size of template is larger than the internal buffer"
  | longText => "size of log is larger than the internal buffer"

end RenderFault

/-- Why a template is not filled in. -/
inductive FillFault where
  /-- There is no text. -/
  | refused (fault : RenderFault)
  /-- A field that the template names has no value. -/
  | missing (field : Field)
  deriving DecidableEq, Repr

end LogRelay
