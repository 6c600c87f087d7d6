import LogRelay.Proofs.Sink.FileHistory

/-!
# What a rotation says and does

A rotation counts itself and says that the file was rotated as soon as a file is open again. Whether
anything was moved out of the way plays no part: where the rename fails, the same file is opened again
and goes on to grow. `serve_counts` tells the two apart, for a text that may begin a rotation and for a
rotation that is asked for.
-/

namespace LogRelay.FileSink

open SinkStep

variable {sink : FileSink} {disk : Disk}

/-! ## Demands -/

/-- What is asked of an open sink: to take a text, which may call for a rotation first, or to rotate its
file. -/
inductive Demand where
  | write (text : String)
  | rotate
  deriving DecidableEq, Repr

namespace Demand

/-- Serves a demand. Only that of a text has an answer. -/
def serve (state : State) : Demand → SinkStep State Bool
  | write text => FileSink.write state text
  | rotate => (FileSink.rotate state).andThen fun state _ => .done state true

/-- Whether a demand calls for a rotation. -/
def rotates (state : State) : Demand → Bool
  | write _ => match needsRotation state with
    | .ok due => due
    | .error _ => false
  | rotate => true

end Demand

/-- A step that says nothing but warnings, leaves all entries and the counts alone, and does not end
because a file cannot be opened. -/
structure Quiet (state : State) (step : SinkStep State Bool) : Prop where
  sink : step.state.1 = state.1
  entries : step.state.2.entries = state.2.entries
  warns : ∀ entry ∈ step.journal, entry.level = .warning
  uncounted : step.bumps = []
  opened : ∀ fault, step.result ≠ .error (.unopened fault)

theorem entries_append (disk : Disk) (descriptor : Nat) (text : String) :
    (append disk descriptor text).2.entries = disk.entries := by
  have writes := disk.entries_writeAll_go descriptor (Utf8.encode text).length (Utf8.encode text)
  rw [append, Disk.writeAll]
  split
  · rename_i between ends
    rw [ends] at writes
    rw [Disk.entries_sync, writes]
  · rename_i fault between ends
    rw [ends] at writes
    exact writes

theorem done_quiet (state : State) (answer : Bool) : Quiet state (.done state answer) :=
  ⟨rfl, rfl, by simp [done], rfl, by simp [done]⟩

theorem appendText_quiet (state : State) (text : String) : Quiet state (appendText state text) := by
  rcases state with ⟨sink, disk⟩
  simp only [appendText]
  split
  · exact done_quiet (sink, disk) false
  · rename_i descriptor held
    have same := entries_append disk descriptor text
    split
    · rename_i after appends
      rw [appends] at same
      exact ⟨rfl, same, by simp [done], rfl, by simp [done]⟩
    · rename_i fault after appends
      rw [appends] at same
      split
      · exact ⟨rfl, same, by simp [noted], rfl, by simp [noted]⟩
      · exact ⟨rfl, same, by simp [failed], rfl, by simp [failed]⟩

/-- A demand is served by a rotation first if it calls for one. The rest is quiet. -/
theorem serve_cases (connected : sink.isConnected = true) (demand : Demand) :
    (demand.rotates (sink, disk) = false ∧ Quiet (sink, disk) (demand.serve (sink, disk))) ∨
      (demand.rotates (sink, disk) = true ∧ ∃ last : State → SinkStep State Bool,
        (∀ state, Quiet state (last state)) ∧
          demand.serve (sink, disk) = (rotate (sink, disk)).andThen fun state _ => last state) := by
  cases demand with
  | rotate =>
      right
      exact ⟨rfl, fun state => .done state true, fun state => done_quiet state true, rfl⟩
  | write text =>
      have writes : write (sink, disk) text =
          (rotateIfNeeded (sink, disk)).andThen fun state _ => appendText state text := by
        rw [write, if_pos connected]
      simp only [Demand.serve, Demand.rotates, writes, rotateIfNeeded]
      cases needs : needsRotation (sink, disk) with
      | error fault =>
          left
          exact ⟨rfl, rfl, rfl, by simp [andThen, failed], rfl, by simp [andThen, failed]⟩
      | ok due =>
          cases due with
          | false =>
              left
              exact ⟨rfl, appendText_quiet (sink, disk) text⟩
          | true =>
              right
              exact ⟨rfl, fun state => appendText state text, fun state => appendText_quiet state text,
                rfl⟩

/-! ## What is counted -/

/-- The file of a sink can be moved out of the way once it has been closed. -/
structure MovesAside (sink : FileSink) (disk : Disk) : Prop where
  renames : ∃ between, (sink.released disk).rename sink.path sink.oldPath = .ok between
  apart : disk.Apart sink.path

theorem count_rotatedEntry {journal : Journal} (warns : ∀ entry ∈ journal, entry.level = .warning) :
    journal.count sink.rotatedEntry = 0 := by
  rw [List.count_eq_zero]
  intro entry_mem
  have level := warns _ entry_mem
  cases level

theorem openedEntry_ne_rotatedEntry (descriptor : Nat) :
    sink.openedEntry descriptor ≠ sink.rotatedEntry := by
  intro same
  cases congrArg Entry.level same

theorem Cleared.warns {between : Disk} {journal : Journal}
    (cleared : Cleared sink disk between journal) : ∀ entry ∈ journal, entry.level = .warning := by
  cases cleared with
  | moved renames => simp
  | stayed fails warns => simpa using warns

theorem Cleared.moved_iff {between after : Disk} {journal : Journal} {mode descriptor : Nat}
    (fresh : disk.NextFresh) (cleared : Cleared sink disk between journal)
    (opens : between.openAppend sink.path mode = .ok (after, descriptor)) :
    disk.Moved after sink.path ↔ sink.MovesAside disk := by
  rcases released_same sink disk with ⟨entries, -, next⟩
  have same := Disk.nodeAt?_congr entries
  have moved_released : (sink.released disk).Moved after sink.path ↔ disk.Moved after sink.path := by
    simp only [Disk.Moved, same]
  have apart_released : (sink.released disk).Apart sink.path ↔ disk.Apart sink.path := by
    simp only [Disk.Apart, same]
  rw [← moved_released]
  cases cleared with
  | moved renames =>
      have fresh_released : (sink.released disk).NextFresh := by
        intro location
        rw [Disk.node?_congr entries, next]
        exact fresh location
      rw [Disk.moved_iff_of_rename fresh_released renames opens, apart_released]
      exact ⟨fun apart => ⟨⟨between, renames⟩, apart⟩, fun moves => moves.apart⟩
  | stayed fails warns =>
      refine iff_of_false (Disk.not_moved_of_opened opens) ?_
      rintro ⟨⟨between, renames⟩, -⟩
      rw [fails] at renames
      cases renames

theorem Quiet.moved_iff {before after : Disk} {step : SinkStep State Bool} {text : String}
    (quiet : Quiet (sink, after) step) :
    before.Moved step.state.2 text ↔ before.Moved after text := by
  simp only [Disk.Moved, Disk.nodeAt?_congr quiet.entries]

theorem serve_counts_exact (fresh : disk.NextFresh) (connected : sink.isConnected = true)
    (demand : Demand) {answer : Bool} (returns : (demand.serve (sink, disk)).result = .ok answer) :
    (demand.serve (sink, disk)).bumps =
        (if demand.rotates (sink, disk) then [.rotations] else []) ∧
      ((demand.serve (sink, disk)).journal.count sink.rotatedEntry =
        if demand.rotates (sink, disk) then 1 else 0) ∧
      (disk.Moved (demand.serve (sink, disk)).state.2 sink.path ↔
        demand.rotates (sink, disk) = true ∧ sink.MovesAside disk) := by
  rcases serve_cases connected demand with ⟨stays, quiet⟩ | ⟨rotates, last, quiet, serves⟩
  · have not_moved : ¬disk.Moved disk sink.path := by
      rintro ⟨node, is_there, -, leaves⟩
      exact leaves is_there
    rw [quiet.moved_iff]
    simp [stays, quiet.uncounted, count_rotatedEntry quiet.warns, not_moved]
  · rw [serves] at returns
    rcases rotate_cases sink disk with ⟨fault, fails, -⟩ | ⟨between, journal, cleared, ends⟩
    · rw [andThen_of_error fails] at returns
      cases returns
    · rcases ends with ⟨fault, opening, -, fails⟩ | ⟨after, descriptor, opens, rotated⟩
      · rw [fails] at returns
        cases returns
      · have quiet_last := quiet ({ sink with descriptor := some descriptor }, after)
        have moved_iff : disk.Moved (demand.serve (sink, disk)).state.2 sink.path ↔
            disk.Moved after sink.path := by
          rw [serves, rotated]
          exact quiet_last.moved_iff
        rw [moved_iff, cleared.moved_iff fresh opens]
        simp [serves, rotated, andThen, rotates, quiet_last.uncounted,
          count_rotatedEntry quiet_last.warns, count_rotatedEntry cleared.warns,
          openedEntry_ne_rotatedEntry]

/-- A rotation that is called for is counted and spoken of once, unless the sink ends early. What was at
the path has been moved only if that was possible, so count and journal are right if it was. -/
theorem serve_counts (fresh : disk.NextFresh) (connected : sink.isConnected = true) (demand : Demand)
    {answer : Bool} (returns : (demand.serve (sink, disk)).result = .ok answer) :
    let step := demand.serve (sink, disk)
    step.bumps = (if demand.rotates (sink, disk) then [.rotations] else []) ∧
      (step.journal.count sink.rotatedEntry = if demand.rotates (sink, disk) then 1 else 0) ∧
      (disk.Moved step.state.2 sink.path ↔
        demand.rotates (sink, disk) = true ∧ sink.MovesAside disk) ∧
      ((demand.rotates (sink, disk) = true → sink.MovesAside disk) →
        (step.bumps.count .rotations = 1 ↔ disk.Moved step.state.2 sink.path) ∧
          (step.journal.count sink.rotatedEntry = 1 ↔ disk.Moved step.state.2 sink.path) ∧
          (¬disk.Moved step.state.2 sink.path → step.bumps.count .rotations = 0)) := by
  intro step
  rcases serve_counts_exact fresh connected demand returns with ⟨counted, spoken, moved_iff⟩
  refine ⟨counted, spoken, moved_iff, ?_⟩
  intro possible
  simp only [step, counted, spoken, moved_iff]
  by_cases rotates : demand.rotates (sink, disk) = true
  · simp [rotates, possible rotates]
  · simp [rotates]

/-- The files of `logDisk`, the one at the path open. -/
def openLog : Disk := { logDisk with descriptors := [(2, 0)], next := 3 }

theorem serve_counts_openLog :
    openLog.NextFresh ∧
      (Demand.serve (⟨"log", 4, some 2⟩, openLog) (.write "x")).result = .ok true ∧
      (Demand.serve (⟨"log", 4, some 2⟩, openLog) (.write "x")).bumps = [.rotations] ∧
      openLog.Moved (Demand.serve (⟨"log", 4, some 2⟩, openLog) (.write "x")).state.2 "log" := by
  have sound : openLog.Sound := logDisk_sound.congr rfl rfl (by decide)
  have answers : (Demand.serve (⟨"log", 4, some 2⟩, openLog) (.write "x")).result = .ok true := rfl
  have at_path : openLog.nodeAt? "log" = some (.file 0) := by decide
  have at_old : openLog.nodeAt? ("log" ++ ".old") = some (.file 1) := by decide
  have moves : (⟨"log", 4, some 2⟩ : FileSink).MovesAside openLog := by
    refine ⟨⟨_, rfl⟩, ?_⟩
    intro number is_file
    rw [at_path] at is_file
    cases is_file
    rw [at_old]
    decide
  rcases serve_counts sound.nextFresh rfl (.write "x") answers with ⟨counted, -, moved_iff, -⟩
  exact ⟨sound.nextFresh, answers, counted, moved_iff.mpr ⟨by decide, moves⟩⟩

/-- A file of ten bytes, which cannot be moved to the old path because of a directory there. -/
def blockedLog : Disk :=
  { ((Disk.empty.create ["log"] fileMode).1.appendTo 0 (Utf8.encode "0123456789")).enter
      ["log.old"] .directory with
    descriptors := [(1, 0)]
    next := 2 }

/-- A rotation is counted and spoken of although nothing was moved. -/
theorem blocked_rotation_counted :
    (⟨"log", 4, some 1⟩ : FileSink).isConnected = true ∧
      (write (⟨"log", 4, some 1⟩, blockedLog) "x").result = .ok true ∧
      (write (⟨"log", 4, some 1⟩, blockedLog) "x").bumps = [.rotations] ∧
      (write (⟨"log", 4, some 1⟩, blockedLog) "x").journal.count
        ⟨.info, .sink, "Rotated log to log.old"⟩ = 1 ∧
      ¬blockedLog.Moved (write (⟨"log", 4, some 1⟩, blockedLog) "x").state.2 "log" := by
  refine ⟨rfl, rfl, rfl, by decide, ?_⟩
  rintro ⟨node, is_there, -, leaves⟩
  have same : (write (⟨"log", 4, some 1⟩, blockedLog) "x").state.2.nodeAt? "log" =
      blockedLog.nodeAt? "log" := by decide
  exact leaves (same.trans is_there)

end LogRelay.FileSink
