import LogRelay.Posix.Fault
import LogRelay.Text.Utf8

/-!
# Paths

A path is a text of names between slashes, followed from the working directory. Empty names and single
dots lead nowhere, two dots lead back up, and a slash at the end asks for a directory. A path that begins
with a slash is followed from the root, which has the name of a slash.
-/

namespace LogRelay

/-- The names that lead from the working directory to an entry, or the name of the root and those that
lead on from there. -/
abbrev Location := List String

/-- How a path ends. -/
inductive LastName where
  /-- In a name, and perhaps in a slash that asks for a directory. -/
  | name (name : String) (slash : Bool)
  /-- In a step that stays where it is or leads up. -/
  | step (name : String)
  deriving DecidableEq, Repr

/-- A path as it is followed: the names before the last one, and how it ends. -/
structure Path where
  before : List String
  last : LastName
  deriving DecidableEq, Repr

namespace Path

/-- The most bytes of a name. -/
def nameLimit : Nat := 255

/-- The most bytes of a path. -/
def pathLimit : Nat := 4095

/-- The name of the root. No other entry can have it. -/
def root : String := "/"

/-- Whether a name only stays where it is, leads up or leads to the root. -/
def isStep (name : String) : Bool :=
  name == "." || name == ".." || name == root

/-- The names of a path, without the empty ones, and behind the root if the path begins there. -/
def names (text : String) : List String :=
  (if text.toList.head? = some '/' then [root] else []) ++
    ((text.toList.splitOn '/').filter (· ≠ [])).map String.ofList

/-- Follows one name. There is no way up from the root. -/
def advance (location : Location) (name : String) : Location :=
  if name = "." then location
  else if name = ".." then if location = [root] then location else location.dropLast
  else location ++ [name]

/-- The path of a text. -/
def ofText (text : String) : Except SystemFault Path :=
  if text.toList.contains '\x00' then .error .zeroInPath
  else if pathLimit < Utf8.size text then .error .nameTooLong
  else match (names text).reverse with
    | [] => .error .noSuchEntry
    | last :: before =>
        .ok ⟨before.reverse,
          if isStep last then .step last else .name last (text.toList.getLast? == some '/')⟩

end Path

end LogRelay
