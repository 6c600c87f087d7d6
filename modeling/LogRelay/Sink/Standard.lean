import LogRelay.Posix.Disk
import LogRelay.Sink.Step

/-!
# The standard output as a sink

Texts are written straight to the descriptor of the standard output, which is always open.
-/

namespace LogRelay

/-- A sink that writes to the standard output. -/
structure StandardSink where
  descriptor : Nat
  deriving DecidableEq, Repr

namespace StandardSink

/-- A sink for the standard output with the disk that holds what has been written to it. -/
abbrev State := StandardSink × Disk

/-- What has been written so far. -/
def written (state : State) : List UInt8 :=
  match state.2.fileOf? state.1.descriptor with
  | some number => (state.2.file? number).elim [] File.content
  | none => []

/-- Writes a text. A failure of the operating system is noted, and the text refused. -/
def write (state : State) (text : String) : SinkStep State Bool :=
  let (sink, disk) := state
  match disk.writeAll sink.descriptor (Utf8.encode text) with
  | (.ok (), disk) => .done (sink, disk) true
  | (.error fault, disk) =>
      if fault.isSystem then
        .noted (sink, disk) ⟨.warning, .sink, "Write to stdout failed: " ++ fault.message⟩ false
      else .failed (sink, disk) (.escaped fault)

/-- The standard output as the delivery sees it. -/
def machine : SinkMachine State := ⟨fun _ => true, write⟩

end StandardSink

end LogRelay
