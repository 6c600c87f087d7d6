import LogRelay.Posix.Path

/-!
# The disk

The entries below the working directory, the files behind them and the descriptors through which files
are written. An entry names a file, and a file lives on without an entry for as long as it is open: one
that has been moved or removed still takes what is written through its descriptors.

Calls fail by the rules of POSIX, and beyond those as the troubles of the disk say.
-/

namespace LogRelay

/-- A file: what it holds, and its permissions. -/
structure File where
  content : List UInt8
  mode : Nat
  deriving DecidableEq, Repr

/-- What an entry is. A file is known by a number of its own. -/
inductive Node where
  | directory
  | file (number : Nat)
  deriving DecidableEq, Repr

/-- What a write meets beyond what the state of the disk gives rise to: the most bytes that it takes,
at least one, and the failure that keeps it from taking any. -/
structure WriteTrouble where
  most : Option Nat
  fault : Option SystemFault
  deriving DecidableEq, Repr

/-- How many calls have been made, of the kinds that are counted. -/
structure Calls where
  writes : Nat
  syncs : Nat
  closes : Nat
  deriving DecidableEq, Repr

/-- What each call meets beyond what the state of the disk gives rise to: writing, making permanent and
closing by how many calls of their kind came before, opening to append and renaming by all of them. -/
structure Trouble where
  write : Nat → WriteTrouble
  sync : Nat → Option SystemFault
  close : Nat → Option SystemFault
  openAppend : Calls → Option SystemFault
  rename : Calls → Option SystemFault

namespace Trouble

/-- No trouble at all. -/
def none : Trouble :=
  ⟨fun _ => ⟨Option.none, Option.none⟩, fun _ => Option.none, fun _ => Option.none,
    fun _ => Option.none, fun _ => Option.none⟩

/-- Fails if there is trouble. -/
def meet : Option SystemFault → Except SystemFault Unit
  | some fault => .error fault
  | Option.none => .ok ()

end Trouble

/-- The disk. -/
structure Disk where
  entries : List (Location × Node)
  files : List (Nat × File)
  /-- The open descriptors, each with the number of its file. -/
  descriptors : List (Nat × Nat)
  /-- The next number for a file or a descriptor. -/
  next : Nat
  calls : Calls
  trouble : Trouble

namespace Disk

/-- A disk without entries. -/
def empty : Disk := ⟨[], [], [], 0, ⟨0, 0, 0⟩, .none⟩

/-- What is at a location. The working directory and the root are always there. -/
def node? (disk : Disk) (location : Location) : Option Node :=
  if location = [] ∨ location = [Path.root] then some .directory else disk.entries.lookup location

/-- The file with a number. -/
def file? (disk : Disk) (number : Nat) : Option File :=
  disk.files.lookup number

/-- The content of the file at a location. -/
def contentAt? (disk : Disk) (location : Location) : Option (List UInt8) :=
  match disk.node? location with
  | some (.file number) => (disk.file? number).map File.content
  | _ => none

/-- Changes the file with a number. -/
def updateFile (disk : Disk) (number : Nat) (change : File → File) : Disk :=
  { disk with
    files := disk.files.map fun (other, file) =>
      (other, if other = number then change file else file) }

/-- Leaves no entry at a location. -/
def forget (disk : Disk) (location : Location) : Disk :=
  { disk with entries := disk.entries.filter fun (other, _) => other ≠ location }

/-- Puts an entry at a location, in the place of any other. -/
def enter (disk : Disk) (location : Location) (node : Node) : Disk :=
  { disk with entries := (location, node) :: (disk.forget location).entries }

/-- Creates an empty file at a location. -/
def create (disk : Disk) (location : Location) (mode : Nat) : Disk × Nat :=
  let number := disk.next
  ({ disk.enter location (.file number) with
      files := (number, ⟨[], mode⟩) :: disk.files
      next := number + 1 }, number)

/-- Whether a directory holds nothing. -/
def isEmptyDirectory (disk : Disk) (location : Location) : Bool :=
  !disk.entries.any fun (other, _) => location.isPrefixOf other && other != location

/-- Follows the names of a path, each of which must lead to a directory. -/
def follow (disk : Disk) (location : Location) : List String → Except SystemFault Location
  | [] => .ok location
  | name :: names =>
      if Path.nameLimit < Utf8.size name then .error .nameTooLong
      else
        let reached := Path.advance location name
        match disk.node? reached with
        | some .directory => follow disk reached names
        | some (.file _) => .error .notDirectory
        | none => .error .noSuchEntry

/-- Where a path leads, and how it ends. The last name need not exist. -/
structure Target where
  location : Location
  /-- The path ends in a step rather than in a name. -/
  step : Bool
  /-- The path asks for a directory. -/
  slash : Bool

/-- Follows a path up to its last name. -/
def target (disk : Disk) (text : String) : Except SystemFault Target := do
  let path ← Path.ofText text
  let parent ← disk.follow [] path.before
  match path.last with
  | .step name => pure ⟨Path.advance parent name, true, true⟩
  | .name name slash =>
      if Path.nameLimit < Utf8.size name then throw .nameTooLong
      pure ⟨parent ++ [name], false, slash⟩

/-- What is at a path. -/
def find (disk : Disk) (text : String) : Except SystemFault (Location × Node) := do
  let found ← disk.target text
  match disk.node? found.location with
  | none => throw .noSuchEntry
  | some .directory => pure (found.location, .directory)
  | some (.file number) =>
      if found.slash then throw .notDirectory
      pure (found.location, .file number)

/-- The size that a directory states. -/
def directorySize : Nat := 4096

/-- The size of what is at a path. -/
def size (disk : Disk) (text : String) : Except SystemFault Nat := do
  match ← disk.find text with
  | (_, .directory) => pure directorySize
  | (_, .file number) => pure ((disk.file? number).elim 0 (·.content.length))

/-- The content of the file at a path. -/
def read (disk : Disk) (text : String) : Except SystemFault (List UInt8) := do
  match ← disk.find text with
  | (_, .directory) => throw .isDirectory
  | (_, .file number) => pure ((disk.file? number).elim [] File.content)

/-- The file at a path that is to be written, which is created if there is none. -/
def openFile (disk : Disk) (text : String) (mode : Nat) : Except SystemFault (Disk × Nat) := do
  let found ← disk.target text
  if found.slash then throw .isDirectory
  match disk.node? found.location with
  | some .directory => throw .isDirectory
  | some (.file number) => pure (disk, number)
  | none => pure (disk.create found.location mode)

/-- Opens the file at a path to append to it. -/
def openAppend (disk : Disk) (text : String) (mode : Nat) : Except SystemFault (Disk × Nat) := do
  let (disk, number) ← disk.openFile text mode
  Trouble.meet (disk.trouble.openAppend disk.calls)
  pure ({ disk with
    descriptors := (disk.next, number) :: disk.descriptors
    next := disk.next + 1 }, disk.next)

/-- Opens a new file that has no entry, to append to it. -/
def openNameless (disk : Disk) : Disk × Nat :=
  ({ disk with
    files := (disk.next, ⟨[], 0o600⟩) :: disk.files
    descriptors := (disk.next + 1, disk.next) :: disk.descriptors
    next := disk.next + 2 }, disk.next + 1)

/-- Puts a new content into the file at a path. -/
def overwrite (disk : Disk) (text : String) (content : List UInt8) : Except SystemFault Disk := do
  let (disk, number) ← disk.openFile text 0o644
  pure (disk.updateFile number fun file => { file with content := content })

/-- The file of an open descriptor. -/
def fileOf? (disk : Disk) (descriptor : Nat) : Option Nat :=
  disk.descriptors.lookup descriptor

/-- Closes a descriptor. It is closed also when the call fails. -/
def close (disk : Disk) (descriptor : Nat) : Except SystemFault Unit × Disk :=
  match disk.fileOf? descriptor with
  | none => (.error .badDescriptor, disk)
  | some _ =>
      (match disk.trouble.close disk.calls.closes with
        | some fault => .error fault
        | none => .ok (),
        { disk with
          descriptors := disk.descriptors.filter fun (other, _) => other ≠ descriptor
          calls := { disk.calls with closes := disk.calls.closes + 1 } })

/-- Appends bytes to the file of a descriptor, all of them or as many as one write takes, and tells
how many. -/
def writeOnce (disk : Disk) (descriptor : Nat) (bytes : List UInt8) :
    Except SystemFault Nat × Disk :=
  let trouble := disk.trouble.write disk.calls.writes
  let after := { disk with calls := { disk.calls with writes := disk.calls.writes + 1 } }
  match trouble.fault with
  | some fault => (.error fault, after)
  | none =>
      match disk.fileOf? descriptor with
      | none => (.error .badDescriptor, after)
      | some number =>
          let count := match trouble.most with
            | some most => min (max most 1) bytes.length
            | none => bytes.length
          (.ok count, after.updateFile number fun file =>
            { file with content := file.content ++ bytes.take count })

/-- Writes until all bytes have been taken or a write fails. -/
def writeAll (disk : Disk) (descriptor : Nat) (bytes : List UInt8) :
    Except SystemFault Unit × Disk :=
  go bytes.length disk bytes
where
  /-- Every write takes at least one byte, so as many writes as there are bytes suffice. -/
  go : (left : Nat) → Disk → List UInt8 → Except SystemFault Unit × Disk
    | 0, disk, _ => (.ok (), disk)
    | left + 1, disk, bytes =>
        if bytes.isEmpty then (.ok (), disk)
        else match disk.writeOnce descriptor bytes with
          | (.ok count, disk) => go left disk (bytes.drop count)
          | (.error fault, disk) => (.error fault, disk)

/-- Makes what has been written through a descriptor permanent. -/
def sync (disk : Disk) (descriptor : Nat) : Except SystemFault Unit × Disk :=
  let after := { disk with calls := { disk.calls with syncs := disk.calls.syncs + 1 } }
  match disk.trouble.sync disk.calls.syncs with
  | some fault => (.error fault, after)
  | none =>
      match disk.fileOf? descriptor with
      | none => (.error .badDescriptor, after)
      | some _ => (.ok (), after)

/-- Moves an entry and all that is below it. -/
def move (disk : Disk) (source destination : Location) : Disk :=
  { disk with
    entries := (disk.forget destination).entries.map fun (other, node) =>
      (if source.isPrefixOf other then destination ++ other.drop source.length else other, node) }

/-- Whether an entry may take the place of another. -/
def checkReplace (disk : Disk) (location : Location) : (moved replaced : Node) → Except SystemFault Unit
  | .file _, .directory => .error .isDirectory
  | .directory, .file _ => .error .notDirectory
  | .directory, .directory =>
      if disk.isEmptyDirectory location then .ok () else .error .notEmpty
  | .file _, .file _ => .ok ()

/-- Renames an entry, which takes the place of what was at its new path. Nothing changes where both
paths lead to the same. -/
def rename (disk : Disk) (source destination : String) : Except SystemFault Disk := do
  let old ← disk.target source
  let new ← disk.target destination
  Trouble.meet (disk.trouble.rename disk.calls)
  if old.step || new.step then throw .busy
  match disk.node? old.location with
  | none => throw .noSuchEntry
  | some node =>
      if node ≠ .directory ∧ (old.slash || new.slash) then throw .notDirectory
      if old.location.isPrefixOf new.location && old.location != new.location then throw .invalidMove
      if new.location.isPrefixOf old.location && old.location != new.location then throw .notEmpty
      match disk.node? new.location with
      | none => pure (disk.move old.location new.location)
      | some replaced =>
          if old.location = new.location ∨ (node ≠ .directory ∧ replaced = node) then pure disk
          else
            disk.checkReplace new.location node replaced
            pure (disk.move old.location new.location)

/-- Removes the entry of a file. -/
def unlink (disk : Disk) (text : String) : Except SystemFault Disk := do
  match ← disk.find text with
  | (_, .directory) => throw .isDirectory
  | (location, .file _) => pure (disk.forget location)

/-- Removes a directory that holds nothing. -/
def removeDirectory (disk : Disk) (text : String) : Except SystemFault Disk := do
  let found ← disk.target text
  if found.step then throw .invalidMove
  match disk.node? found.location with
  | none => throw .noSuchEntry
  | some (.file _) => throw .notDirectory
  | some .directory =>
      if disk.isEmptyDirectory found.location then pure (disk.forget found.location)
      else throw .notEmpty

/-- Creates a directory. -/
def createDirectory (disk : Disk) (text : String) : Except SystemFault Disk := do
  let found ← disk.target text
  match disk.node? found.location with
  | some _ => throw .alreadyExists
  | none => pure (disk.enter found.location .directory)

/-- Creates the directories that lead to a location, as far as they are missing. -/
def createParents (disk : Disk) (before : Location) : Location → Disk
  | [] | [_] => disk
  | name :: names =>
      let reached := before ++ [name]
      createParents
        (if (disk.node? reached).isNone then disk.enter reached .directory else disk) reached names

/-- The disk that holds some entries by path: directories, and files with a content. -/
def ofListing (listing : List (String × Option (List UInt8))) : Disk :=
  listing.foldl (fun disk (path, content) =>
    let disk := disk.createParents [] (Path.names path)
    (match content with
      | none => disk.createDirectory path
      | some bytes => disk.overwrite path bytes).toOption.getD disk) empty

/-- The text of a location. -/
def textOf (location : Location) : String :=
  Path.root.intercalate location

/-- The entries below the working directory by path, a file with its content and permissions, in the
order of the paths. -/
def listing (disk : Disk) : List (String × Option File) :=
  ((disk.entries.filter fun (location, _) => location.head? != some Path.root).map
    fun (location, node) =>
      (textOf location, match node with
        | .directory => none
        | .file number => some ((disk.file? number).getD ⟨[], 0⟩))).mergeSort
    fun left right => !decide (right.1 < left.1)

end Disk

end LogRelay
