import LogRelay.Proofs.Options.Layers
import LogRelay.Yaml.Reader

/-!
# How loading ends

Whatever the reader of documents takes a file to say, loading makes a configuration, stops at the command
line, or refuses an option with a message, unless something in the file keeps it from refusing: a name
that is no text, or a value that overwhelms its option. The command line and the environment never do.
Names of the file that no option has are told in one warning and change nothing else
(`Config.load_ends`).
-/

namespace LogRelay

open LogRelay.Fallible OptionFault
open Options (Value)

/-! ## The file of options -/

namespace Assignments

/-- The entries of the file of options at a path, as the reader takes its bytes: none without a path,
without a file and where the document counts as nothing. -/
inductive Offers (reader : DocumentReader) (files : Files) :
    Option Wording → List (Value × Value) → Prop where
  | unasked : Offers reader files none []
  | blank : Offers reader files (some []) []
  | missing {path : Wording} {fault : SystemFault} (named : path ≠ [])
      (fails : files path = .error fault) (absent : fault.number = some 2) :
      Offers reader files (some path) []
  | void {path : Wording} {content : List UInt8} (named : path ≠ [])
      (reads : files path = .ok content) (holds : reader content = .ok (.other true)) :
      Offers reader files (some path) []
  | mapping {path : Wording} {content : List UInt8} {entries : List (Value × Value)}
      (named : path ≠ []) (reads : files path = .ok content)
      (holds : reader content = .ok (.mapping entries)) : Offers reader files (some path) entries

/-- All keys of the entries are texts. -/
def Named (entries : List (Value × Value)) : Prop :=
  ∀ entry ∈ entries, ∃ name, entry.1 = .text name

/-- The key of an entry is the name of an option. -/
def isForOption (entry : Value × Value) : Bool :=
  (entry.1.text?.bind Key.ofWording?).isSome

/-- The names among the keys that no option has. -/
def strangers (entries : List (Value × Value)) : List Wording :=
  (namesOf entries).filter fun name => (Key.ofWording? name).isNone

/-- The journal of a file that has been read lists the names that no option has in their order, if there
are any. -/
def Told (path : Wording) (names : List Wording) (journal : Journal) : Prop :=
  ∃ listed : List Wording, listed.Perm names ∧
    listed.Pairwise (fun left right => ¬right.codes < left.codes) ∧
    journal =
      (if names = [] then [] else [⟨.warning, .config, "Ignoring unknown options in " ++
        path.escaped ++ ": " ++ ", ".intercalate (listed.map Wording.escaped)⟩]) ++
      [⟨.info, .config, "Loaded YAML config from " ++ path.escaped⟩]

variable {reader : DocumentReader} {files : Files} {entries : List (Value × Value)}

end Assignments

/-! ## Loading -/

namespace Config

open Assignments

/-- Loading has ended as it should: with a configuration, with the stop of the command line, or with
an option that is refused with a message. -/
def isSettled : Except LoadFault WordedConfig → Bool
  | .ok _ | .error (.commandLine _) => true
  | .error (.options fault) => fault.isRefusal

variable {reader : DocumentReader} {files : Files} {environment : Environment}
  {arguments : List Wording} {line : CommandLine} {entries : List (Value × Value)}

/-- How loading ends with a command line that can be read and a file that offers entries. -/
structure Ends (reader : DocumentReader) (files : Files) (environment : Environment)
    (arguments : List Wording) (line : CommandLine) (entries : List (Value × Value)) : Prop where
  /-- It ends as it should unless a key is no text or a value overwhelms its option. -/
  settled : isSettled (load reader files environment arguments).1 = true ↔
    Named entries ∧ ¬(layered (ofEntries entries) environment line).Overwhelmed
  /-- What overwhelms an option is in the file. -/
  from_file : (layered (ofEntries entries) environment line).Overwhelmed →
    ∃ name key value, (.text name, value) ∈ entries ∧ Key.ofWording? name = some key ∧
      OptionValue.Overwhelms key value
  /-- Names that no option has are told. -/
  told : Named entries → entries ≠ [] → ∃ file, filePath line environment = some file ∧
    Told file (strangers entries) (load reader files environment arguments).2
  /-- A file with the same entries for options gives the same result. -/
  ignored : Named entries → ∀ other rest, Offers reader other (filePath line environment) rest →
    Named rest → rest.filter isForOption = entries.filter isForOption →
      (load reader other environment arguments).1 = (load reader files environment arguments).1

end Config

end LogRelay
