import LogRelay.Journal
import LogRelay.Options.Assignments
import LogRelay.Options.Fault

/-!
# Options from a file

A file can hold a mapping from the names of options to their values. Names that no option has are told
and otherwise passed over. A file that does not exist holds no options.
-/

namespace LogRelay

open Options (Value)

namespace Assignments

/-- The names of a mapping, none when one of them is no text. -/
def names? : List (Value × Value) → Option (List Wording)
  | [] => some []
  | (.text name, _) :: entries => (names? entries).map (name :: ·)
  | _ :: _ => none

/-- The values of a mapping for options. -/
def ofEntries (entries : List (Value × Value)) : Assignments :=
  entries.filterMap fun (name, value) =>
    (name.text?.bind Key.ofWording?).map fun key => (key, value)

/-- The entry that says which names of a file are no options, if there are any. -/
def reportUnknown (path : Wording) (names : List Wording) : Journal :=
  let unknown := (names.filter fun name => (Key.ofWording? name).isNone).mergeSort
    fun left right => !decide (right.codes < left.codes)
  if unknown.isEmpty then []
  else [⟨.warning, .config, "Ignoring unknown options in " ++ path.escaped ++ ": " ++
    ", ".intercalate (unknown.map Wording.escaped)⟩]

/-- The values of a mapping for options, with what the journal notes about its names. -/
def ofMapping (path : Wording) (entries : List (Value × Value)) :
    Except OptionFault Assignments × Journal :=
  match names? entries with
  | none => (.error .unnamed, [])
  | some names =>
      (.ok (ofEntries entries),
        reportUnknown path names ++ [⟨.info, .config, "Loaded YAML config from " ++ path.escaped⟩])

/-- The values for options in a document. What counts as nothing holds none. -/
def ofDocument (path : Wording) : Document → Except OptionFault Assignments × Journal
  | .mapping entries => ofMapping path entries
  | .other true => ofMapping path []
  | .other false => (.error (.notMapping path), [])

/-- The values for options in the file at a path. -/
def ofFile (reader : DocumentReader) (files : Files) (path : Wording) :
    Except OptionFault Assignments × Journal :=
  match files path with
  | .error fault =>
      if fault.number = some 2 then
        (.ok [],
          [⟨.warning, .config, "Config file " ++ path.escaped ++ " not found, using defaults"⟩])
      else (.error (.unreadable fault), [])
  | .ok content =>
      match reader content with
      | .error fault => (.error (.badDocument path fault), [])
      | .ok document => ofDocument path document

/-- The values for options in the file at a path, none without a path. -/
def ofPath (reader : DocumentReader) (files : Files) (path : Option Wording) :
    Except OptionFault Assignments × Journal :=
  match path with
  | some path => if path = [] then (.ok [], []) else ofFile reader files path
  | none => (.ok [], [])

end Assignments

end LogRelay
