import LogRelay.Yaml.Moment
import LogRelay.Yaml.Number

/-!
# Tags

The tag of a node says what kind of value it stands for. A plain scalar without a tag gets one by its
form, and is a text if it has none of the forms.
-/

namespace LogRelay.Yaml

/-- What kind of value a node stands for. -/
inductive Tag where
  | null
  | flag
  | integer
  | double
  | bytes
  | moment
  | text
  | list
  | mapping
  | set
  | orderedMapping
  | pairs
  /-- The key of entries that are taken over from other mappings. -/
  | merge
  /-- The key of the entry that stands for a mapping as a whole. -/
  | value
  | other
  deriving DecidableEq, Repr

namespace Tag

/-- The beginning of the names of the tags that are known. -/
def common : String := "tag:yaml.org,2002:"

/-- The tags that are known, by name. -/
def known : List (String × Tag) :=
  [("null", null), ("bool", flag), ("int", integer), ("float", double), ("binary", bytes),
    ("timestamp", moment), ("str", text), ("seq", list), ("map", mapping), ("set", set),
    ("omap", orderedMapping), ("pairs", pairs), ("merge", merge), ("value", value)]

/-- The tag with a name. -/
def ofName (name : String) : Tag :=
  match known.find? fun (word, _) => common ++ word == name with
  | some (_, tag) => tag
  | none => other

/-- The words for truth values. -/
def flagWords : List String :=
  ["yes", "Yes", "YES", "no", "No", "NO", "true", "True", "TRUE", "false", "False", "FALSE", "on",
    "On", "ON", "off", "Off", "OFF"]

/-- The words for nothing. -/
def nullWords : List String := ["", "~", "null", "Null", "NULL"]

/-- A text without one end of a line behind it. -/
def withoutBreak (chars : List Char) : List Char :=
  if chars.length > 1 && chars.getLast? == some '\n' then chars.dropLast else chars

/-- The tag of a plain scalar by its form. The end of a line behind it does not matter. -/
def ofPlain (text : String) : Tag :=
  let chars := withoutBreak text.toList
  let word := String.ofList chars
  if flagWords.contains word then flag
  else if isDouble chars then double
  else if isInteger chars then integer
  else if word == "<<" then merge
  else if nullWords.contains word then null
  else if isMoment chars then moment
  else if word == "=" then value
  else if word == "!" || word == "&" || word == "*" then other
  else Tag.text

end Tag

end LogRelay.Yaml
