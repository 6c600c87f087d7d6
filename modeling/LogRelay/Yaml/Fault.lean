/-!
# What can be wrong with a document

A text that is no document is invalid, whatever the reason. Some texts break off for reasons of their
own: a tag promises a number, a truth value or a day and the text is none, or an escape names a code
that no character has.
-/

namespace LogRelay.Yaml

/-- Why a text makes no value. -/
inductive Fault where
  /-- The text is no document, or holds more than one. -/
  | invalid
  /-- A text that is to be a number is none. -/
  | notNumber
  /-- A text that is to be a number is empty. -/
  | emptyNumber
  /-- A number is beyond all bounds. -/
  | unbounded
  /-- A text that is to be a truth value is none. -/
  | notFlag
  /-- A text that is to be a day does not have the form of one. -/
  | notDay
  /-- There is no such day or time of day. -/
  | noSuchDay
  /-- No character has this code. -/
  | noSuchCharacter
  /-- A code does not even fit a word. -/
  | hugeCode
  deriving DecidableEq, Repr

end LogRelay.Yaml
