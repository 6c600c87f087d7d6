import LogRelay.Proofs.Posix.Renaming
import LogRelay.Sink.File

/-!
# The steps of a rotation

A rotation closes the file, moves it out of the way if that is possible, and opens another. All that this
can come to is in `rotate_cases`, and what is said of rotations elsewhere comes from there.
-/

namespace LogRelay.FileSink

open SinkStep

variable {sink : FileSink} {disk : Disk}

/-- The sink without its file. -/
def shut (sink : FileSink) : FileSink := { sink with descriptor := none }

/-- The disk without the open file of the sink. -/
def released (sink : FileSink) (disk : Disk) : Disk := (close (sink, disk)).state.2

/-- What is said about a rotation. -/
def rotatedEntry (sink : FileSink) : Entry :=
  ⟨.info, .sink, "Rotated " ++ sink.path ++ " to " ++ sink.oldPath⟩

theorem close_cases (sink : FileSink) (disk : Disk) :
    (∃ fault, (close (sink, disk)).result = .error (.escaped fault) ∧
      (close (sink, disk)).state.1 = sink) ∨
      close (sink, disk) = .done (sink.shut, sink.released disk) () := by
  rcases sink with ⟨path, rotateSize, _ | descriptor⟩
  · exact .inr rfl
  · simp only [released, close]
    split
    · exact .inr rfl
    · split
      · exact .inr rfl
      · exact .inl ⟨_, rfl, rfl⟩

/-- Closing a file changes nothing but the descriptors. -/
theorem released_same (sink : FileSink) (disk : Disk) :
    (sink.released disk).entries = disk.entries ∧ (sink.released disk).files = disk.files ∧
      (sink.released disk).next = disk.next := by
  have same : ∀ descriptor, (disk.close descriptor).2.entries = disk.entries ∧
      (disk.close descriptor).2.files = disk.files ∧ (disk.close descriptor).2.next = disk.next := by
    intro descriptor
    rw [Disk.close]
    split <;> exact ⟨rfl, rfl, rfl⟩
  rcases sink with ⟨path, rotateSize, _ | descriptor⟩
  · exact ⟨rfl, rfl, rfl⟩
  · have same_files := same descriptor
    simp only [released, close]
    split
    · rename_i after closes
      rwa [closes] at same_files
    · rename_i fault after closes
      rw [closes] at same_files
      split <;> exact same_files

/-- The file of a sink has been closed, and moved out of the way if that was possible. -/
inductive Cleared (sink : FileSink) (disk : Disk) : Disk → Journal → Prop where
  | moved {between : Disk}
      (renames : (sink.released disk).rename sink.path sink.oldPath = .ok between) :
      Cleared sink disk between []
  | stayed {fault : SystemFault} {warning : Entry}
      (fails : (sink.released disk).rename sink.path sink.oldPath = .error fault)
      (warns : warning.level = .warning) :
      Cleared sink disk (sink.released disk) [warning]

theorem moveAside_cases (sink : FileSink) (disk : Disk) :
    (∃ fault, (moveAside (sink.shut, sink.released disk)).result = .error (.escaped fault) ∧
      (moveAside (sink.shut, sink.released disk)).state.1 = sink.shut) ∨
      ∃ between journal, Cleared sink disk between journal ∧
        moveAside (sink.shut, sink.released disk) = ⟨(sink.shut, between), .ok (), journal, []⟩ := by
  have same_path : sink.shut.path = sink.path ∧ sink.shut.oldPath = sink.oldPath := ⟨rfl, rfl⟩
  cases renames : (sink.released disk).rename sink.path sink.oldPath with
  | ok between =>
      right
      refine ⟨between, [], .moved renames, ?_⟩
      simp only [moveAside, same_path, renames]
      rfl
  | error fault =>
      simp only [moveAside, same_path, renames]
      split
      · right
        exact ⟨_, _, .stayed renames rfl, rfl⟩
      · left
        exact ⟨fault, rfl, rfl⟩

/-- All that a rotation comes to: a failure that escapes, a file that cannot be opened, or an open file,
and only then the rotation is counted. -/
theorem rotate_cases (sink : FileSink) (disk : Disk) :
    (∃ fault, (rotate (sink, disk)).result = .error (.escaped fault) ∧
      ((rotate (sink, disk)).state.1 = sink ∨ (rotate (sink, disk)).state.1 = sink.shut)) ∨
      ∃ between journal, Cleared sink disk between journal ∧
        ((∃ fault opening, between.openAppend sink.path fileMode = .error fault ∧
            rotate (sink, disk) =
              ⟨(sink.shut, between), .error (.unopened opening), journal, []⟩) ∨
          ∃ after descriptor, between.openAppend sink.path fileMode = .ok (after, descriptor) ∧
            rotate (sink, disk) =
              ⟨({ sink with descriptor := some descriptor }, after), .ok (),
                journal ++ [sink.openedEntry descriptor, sink.rotatedEntry], [.rotations]⟩) := by
  rcases close_cases sink disk with ⟨fault, fails, stays⟩ | closes
  · left
    exact ⟨fault, by simp [rotate, andThen, fails], by simp [rotate, andThen, fails, stays]⟩
  rw [rotate, closes, done_andThen]
  rcases moveAside_cases sink disk with ⟨fault, fails, stays⟩ | ⟨between, journal, cleared, moves⟩
  · left
    exact ⟨fault, by simp [andThen, fails], by simp [andThen, fails, stays]⟩
  rw [moves]
  have same_path : sink.shut.path = sink.path := rfl
  cases opens : between.openAppend sink.path fileMode with
  | ok opened =>
      right
      refine ⟨between, journal, cleared, .inr ⟨opened.1, opened.2, opens, ?_⟩⟩
      have opens_shut : openFile (sink.shut, between) =
          .noted ({ sink with descriptor := some opened.2 }, opened.1)
            (sink.openedEntry opened.2) () := by
        simp only [openFile, same_path, opens]
        rfl
      simp only [andThen, opens_shut, noted, countRotation, List.append_assoc, List.nil_append]
      rfl
  | error fault =>
      have fails : openFile (sink.shut, between) =
          .failed (sink.shut, between) (sink.openFault fault) := by
        simp only [openFile, same_path, opens]
        rfl
      cases opening : sink.openFault fault with
      | unopened unopened =>
          right
          refine ⟨between, journal, cleared, .inl ⟨fault, unopened, opens, ?_⟩⟩
          simp only [andThen, fails, failed, opening, List.append_nil]
      | escaped other =>
          left
          simp [andThen, fails, failed, opening]

end LogRelay.FileSink
