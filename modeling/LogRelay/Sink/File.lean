import LogRelay.Posix.Disk
import LogRelay.Sink.Step

/-!
# The file sink

Texts are appended to a file, and every one is made permanent before the next. Before a text is
written, a file that has grown past a given size is rotated: it is closed, renamed to the same path
with `.old` behind it, and a new file is opened. So a file exceeds the size by one text at most.

A rename that fails is noted, and writing goes on in the same file. A file that cannot be opened ends
the delivery, and leaves the sink closed.
-/

namespace LogRelay

/-- A sink that appends to a file. -/
structure FileSink where
  path : String
  /-- The size in bytes beyond which the file is rotated, zero for never. -/
  rotateSize : Int
  /-- The open descriptor of the file. -/
  descriptor : Option Nat
  deriving DecidableEq, Repr

namespace FileSink

/-- A file sink with the disk that it writes to. -/
abbrev State := FileSink × Disk

/-- A sink that is closed. -/
def closed (path : String) (rotateSize : Int) : FileSink := ⟨path, rotateSize, none⟩

/-- The path to which a rotated file is moved. -/
def oldPath (sink : FileSink) : String := sink.path ++ ".old"

/-- The permissions of a new file. -/
def fileMode : Nat := 0o600

/-- Whether the file is open. -/
def isConnected (sink : FileSink) : Bool := sink.descriptor.isSome

/-- What keeps the file from being opened. -/
def openFault (sink : FileSink) (fault : SystemFault) : SinkFault :=
  if fault.isSystem then
    .unopened ⟨fault.number.getD 0, "failed to open " ++ sink.path ++ ": " ++ fault.text⟩
  else .escaped fault

/-- What is said about a file that has been opened. -/
def openedEntry (sink : FileSink) (descriptor : Nat) : Entry :=
  ⟨.debug, .sink, "Opened " ++ sink.path ++ " (fd=" ++ toString descriptor ++ ")"⟩

/-- Opens the file to append to it. -/
def openFile (state : State) : SinkStep State Unit :=
  let (sink, disk) := state
  match disk.openAppend sink.path fileMode with
  | .ok (disk, descriptor) =>
      .noted ({ sink with descriptor := some descriptor }, disk) (sink.openedEntry descriptor) ()
  | .error fault => .failed (sink, disk) (sink.openFault fault)

/-- Closes the file. Failures of the operating system are left out of account. -/
def close (state : State) : SinkStep State Unit :=
  let (sink, disk) := state
  match sink.descriptor with
  | none => .done (sink, disk) ()
  | some descriptor =>
      match disk.close descriptor with
      | (.ok (), disk) => .done ({ sink with descriptor := none }, disk) ()
      | (.error fault, disk) =>
          if fault.isSystem then .done ({ sink with descriptor := none }, disk) ()
          else .failed (sink, disk) (.escaped fault)

/-- Moves the file out of the way. A failure of the operating system is noted only. -/
def moveAside (state : State) : SinkStep State Unit :=
  let (sink, disk) := state
  match disk.rename sink.path sink.oldPath with
  | .ok disk => .done (sink, disk) ()
  | .error fault =>
      if fault.isSystem then
        .noted (sink, disk) ⟨.warning, .sink, "Failed to rename " ++ sink.path ++ " to " ++
          sink.oldPath ++ ": " ++ (fault.about [sink.path, sink.oldPath]).message⟩ ()
      else .failed (sink, disk) (.escaped fault)

/-- Notes and counts a rotation. -/
def countRotation (state : State) : SinkStep State Unit :=
  ⟨state, .ok (), [⟨.info, .sink, "Rotated " ++ state.1.path ++ " to " ++ state.1.oldPath⟩],
    [.rotations]⟩

/-- Moves the file out of the way and begins a new one. -/
def rotate (state : State) : SinkStep State Unit :=
  (((close state).andThen fun state _ => moveAside state).andThen fun state _ =>
    openFile state).andThen fun state _ => countRotation state

/-- Whether the file has grown past the size beyond which it is rotated. A file that is not to be
found has not. -/
def needsRotation (state : State) : Except SystemFault Bool :=
  let (sink, disk) := state
  if sink.rotateSize = 0 then .ok false
  else match disk.size sink.path with
    | .ok size => .ok (decide (sink.rotateSize < (size : Int)))
    | .error fault => if fault.isSystem then .ok false else .error fault

/-- Rotates the file if it has grown past the size. -/
def rotateIfNeeded (state : State) : SinkStep State Unit :=
  match needsRotation state with
  | .ok true => rotate state
  | .ok false => .done state ()
  | .error fault => .failed state (.escaped fault)

/-- Writes a text through a descriptor and makes it permanent. -/
def append (disk : Disk) (descriptor : Nat) (text : String) : Except SystemFault Unit × Disk :=
  match disk.writeAll descriptor (Utf8.encode text) with
  | (.ok (), disk) => disk.sync descriptor
  | (.error fault, disk) => (.error fault, disk)

/-- Appends a text to the open file. A failure of the operating system is noted, and the text
refused. -/
def appendText (state : State) (text : String) : SinkStep State Bool :=
  let (sink, disk) := state
  match sink.descriptor with
  | none => .done (sink, disk) false
  | some descriptor =>
      match append disk descriptor text with
      | (.ok (), disk) => .done (sink, disk) true
      | (.error fault, disk) =>
          if fault.isSystem then
            .noted (sink, disk) ⟨.warning, .sink, "Write to " ++ sink.path ++ " failed: " ++
              fault.message⟩ false
          else .failed (sink, disk) (.escaped fault)

/-- Takes a text. A closed sink refuses it. -/
def write (state : State) (text : String) : SinkStep State Bool :=
  if state.1.isConnected then
    (rotateIfNeeded state).andThen fun state _ => appendText state text
  else .done state false

/-- The file sink as the delivery sees it. -/
def machine : SinkMachine State := ⟨fun state => state.1.isConnected, write⟩

end FileSink

end LogRelay
