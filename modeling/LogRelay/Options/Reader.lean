import LogRelay.Options.Value
import LogRelay.Posix.Fault

/-!
# Readers of documents

A file of options is a document in a language of its own. What bytes say in that language is for a
reader of documents to tell, and so are the values in it and how they are shown. The reader makes a text
of the bytes itself, as far as it reads them. Loading takes the reader as it comes, and the files in
which the documents are.
-/

namespace LogRelay

open Options (Value)

/-- Why bytes make no document. -/
inductive DocumentFault where
  /-- They are none, and this is why. -/
  | invalid (reason : String)
  /-- Bytes are come upon that are no UTF-8. -/
  | undecodable
  /-- The reading of them breaks off for a reason of another kind. -/
  | broken (reason : String)
  deriving DecidableEq, Repr

/-- What bytes say: a mapping, or something else, which can count as nothing. -/
inductive Document where
  | mapping (entries : List (Value × Value))
  | other (isVoid : Bool)

/-- The names in a mapping: the keys that are texts. -/
def namesOf (entries : List (Value × Value)) : List Wording :=
  entries.filterMap fun entry => entry.1.text?

/-- What reads documents. -/
abbrev DocumentReader := List UInt8 → Except DocumentFault Document

/-- A mapping that is read has every name once. -/
def DocumentReader.Distinct (reader : DocumentReader) : Prop :=
  ∀ content entries, reader content = .ok (.mapping entries) → (namesOf entries).Nodup

/-- What is in the files that can be opened, by path. -/
abbrev Files := Wording → Except SystemFault (List UInt8)

end LogRelay
