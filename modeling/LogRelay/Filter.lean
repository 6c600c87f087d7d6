import LogRelay.Journal
import LogRelay.Pattern.Match

/-!
# The message filter

A filter lets through the messages in which its pattern occurs. Without a pattern, and with a text
that is no pattern, it lets all through. A pattern whose numbers are beyond any bound makes no filter
at all.
-/

namespace LogRelay

/-- What decides which messages are passed on. -/
structure Filter where
  pattern : Option Pattern

namespace Filter

/-- The filter that lets all messages through. -/
def unrestricted : Filter := ⟨none⟩

/-- The filter for the text of a pattern, with what the journal notes about it. -/
def ofText (text : Option String) : Except Pattern.Fault (Filter × Journal) :=
  match text with
  | none => .ok (unrestricted, [])
  | some text =>
      match Pattern.ofText text with
      | .ok pattern => .ok (⟨some pattern⟩, [])
      | .error .invalid => .ok (unrestricted, [⟨.error, .filter, "Invalid filter pattern"⟩])
      | .error fault => .error fault

/-- Whether the filter has a pattern. -/
def isActive (filter : Filter) : Bool :=
  filter.pattern.isSome

/-- Whether a message is passed on. -/
def accepts (filter : Filter) (message : String) : Bool :=
  match filter.pattern with
  | some pattern => pattern.occursIn message
  | none => true

end Filter

end LogRelay
