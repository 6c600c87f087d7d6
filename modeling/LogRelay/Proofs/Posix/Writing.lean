import LogRelay.Proofs.Posix.Sound

/-!
# Writing against trouble

Every write takes some of the bytes that it is offered, at least one, or fails. However many each of
them takes, and wherever one fails, what has reached the file in the end are the first of the bytes,
each of them once (`writeAll_progress`). All of them have, if no write failed.
-/

namespace LogRelay

/-- No trouble of its own meets the next writes. -/
def Trouble.Spares (trouble : Trouble) (first count : Nat) : Prop :=
  ∀ made, first ≤ made → made < first + count → (trouble.write made).fault = Option.none

theorem Trouble.Spares.mono {trouble : Trouble} {first count fewer : Nat}
    (spares : trouble.Spares first count) (fewer_le : fewer ≤ count) :
    trouble.Spares first fewer := by
  intro made enough few
  apply spares made enough
  omega

theorem Trouble.spares_succ_iff {trouble : Trouble} {first count : Nat} :
    trouble.Spares first (count + 1) ↔
      (trouble.write first).fault = Option.none ∧ trouble.Spares (first + 1) count := by
  constructor
  · intro spares
    refine ⟨spares first (by omega) (by omega), ?_⟩
    intro made enough few
    apply spares made <;> omega
  · rintro ⟨here, later⟩ made enough few
    by_cases first_one : made = first
    · rw [first_one, here]
    · apply later made <;> omega

theorem Trouble.meet_eq_ok_iff {met : Option SystemFault} : meet met = .ok () ↔ met = Option.none := by
  cases met <;> simp [meet]

theorem Trouble.meet_eq_error_iff {met : Option SystemFault} {fault : SystemFault} :
    meet met = .error fault ↔ met = some fault := by
  cases met <;> simp [meet]

namespace Disk

variable {disk after : Disk} {descriptor number : Nat} {bytes : List UInt8}

/-- The disk after some more calls to write and to make permanent. -/
def called (disk : Disk) (writes syncs : Nat) : Disk :=
  { disk with
    calls := { disk.calls with
      writes := disk.calls.writes + writes
      syncs := disk.calls.syncs + syncs } }

@[simp]
theorem called_zero (disk : Disk) : disk.called 0 0 = disk := rfl

theorem called_called (disk : Disk) (writes syncs more_writes more_syncs : Nat) :
    (disk.called writes syncs).called more_writes more_syncs =
      disk.called (writes + more_writes) (syncs + more_syncs) := by
  simp [called, Nat.add_assoc]

theorem appendTo_called (disk : Disk) (number : Nat) (bytes : List UInt8) (writes syncs : Nat) :
    (disk.called writes syncs).appendTo number bytes =
      (disk.appendTo number bytes).called writes syncs := rfl

theorem file?_appendTo (disk : Disk) (number : Nat) (bytes : List UInt8) :
    (disk.appendTo number bytes).file? number =
      (disk.file? number).map fun file => { file with content := file.content ++ bytes } := by
  rw [appendTo, file?_updateFile, if_pos rfl]

/-- How far writing some bytes has come: what the file of the descriptor has taken of them, and how many
writes that took. -/
structure Progress (disk : Disk) (number : Nat) (bytes taken : List UInt8) (writes : Nat)
    (ended : Except SystemFault Unit × Disk) : Prop where
  begins : taken <+: bytes
  few : writes ≤ bytes.length
  grown : ended.2 = (disk.appendTo number taken).called writes 0
  ok_iff : ended.1 = .ok () ↔ disk.trouble.Spares disk.calls.writes writes
  whole : ended.1 = .ok () → taken = bytes
  failed : ∀ fault, ended.1 = .error fault → ∃ made, (disk.trouble.write made).fault = some fault

theorem progress_nil (disk : Disk) (number : Nat) : Progress disk number [] [] 0 (.ok (), disk) where
  begins := List.prefix_rfl
  few := Nat.le_refl 0
  grown := by rw [appendTo_nil, called_zero]
  ok_iff := by
    refine ⟨fun _ made enough few => ?_, fun _ => rfl⟩
    omega
  whole _ := rfl
  failed _ fails := by cases fails

/-- One write fails, or takes the first bytes, at least one if there are any. -/
theorem writeOnce_cases (opened : disk.fileOf? descriptor = some number) (bytes : List UInt8) :
    (∃ fault, (disk.trouble.write disk.calls.writes).fault = some fault ∧
      disk.writeOnce descriptor bytes = (.error fault, disk.called 1 0)) ∨
    ((disk.trouble.write disk.calls.writes).fault = none ∧
      ∃ count, count ≤ bytes.length ∧ (bytes ≠ [] → 0 < count) ∧
        disk.writeOnce descriptor bytes =
          (.ok count, (disk.appendTo number (bytes.take count)).called 1 0)) := by
  cases fails : (disk.trouble.write disk.calls.writes).fault with
  | some fault =>
      left
      exact ⟨fault, rfl, by simp [writeOnce, fails, called]⟩
  | none =>
      right
      refine ⟨rfl, _, ?_, ?_, by simp only [writeOnce, fails, opened]; rfl⟩
      · split <;> omega
      · intro nonempty
        have some_bytes := List.length_pos_iff.mpr nonempty
        split <;> omega

theorem writeAll_go_progress {left : Nat} (opened : disk.fileOf? descriptor = some number)
    (enough : bytes.length ≤ left) :
    ∃ taken writes, Progress disk number bytes taken writes
      (writeAll.go descriptor left disk bytes) := by
  -- Every write takes a byte at least, so the bytes that are left never outnumber the writes.
  induction left generalizing disk bytes with
  | zero =>
      rw [List.eq_nil_of_length_eq_zero (Nat.le_zero.mp enough)]
      exact ⟨[], 0, progress_nil disk number⟩
  | succ left ih =>
      by_cases empty : bytes = []
      · rw [empty]
        exact ⟨[], 0, progress_nil disk number⟩
      · have goes_on : bytes.isEmpty = false := by simpa using empty
        have some_bytes := List.length_pos_iff.mpr empty
        rw [writeAll.go, goes_on]
        simp only [Bool.false_eq_true, if_false]
        rcases writeOnce_cases opened bytes with
          ⟨fault, met, writes⟩ | ⟨spared, count, fits, progress, writes⟩
        · rw [writes]
          refine ⟨[], 1, List.nil_prefix, some_bytes, ?_, ?_, ?_, ?_⟩
          · rw [appendTo_nil]
          · simp [Trouble.spares_succ_iff, met]
          · simp
          · rintro other ⟨⟩
            exact ⟨_, met⟩
        · have more := progress empty
          rw [writes]
          let between := (disk.appendTo number (bytes.take count)).called 1 0
          have opened_between : between.fileOf? descriptor = some number := opened
          have enough_between : (bytes.drop count).length ≤ left := by
            rw [List.length_drop]
            omega
          rcases ih opened_between enough_between with ⟨taken, later, begins, few, grown, ok_iff, whole,
            failed⟩
          have rejoined := List.take_append_drop count bytes
          refine ⟨bytes.take count ++ taken, later + 1, ?_, ?_, ?_, ?_, ?_, failed⟩
          · have behind := (List.prefix_append_right_inj (bytes.take count)).mpr begins
            rwa [rejoined] at behind
          · rw [List.length_drop] at few
            omega
          · rw [grown, appendTo_called, appendTo_appendTo, called_called, Nat.add_comm]
          · rw [ok_iff, Trouble.spares_succ_iff]
            exact (and_iff_right spared).symm
          · intro ends_well
            rw [whole ends_well, rejoined]

/-- What has reached the file in the end are the first of the bytes. -/
theorem writeAll_progress (opened : disk.fileOf? descriptor = some number) (bytes : List UInt8) :
    ∃ taken writes, Progress disk number bytes taken writes (disk.writeAll descriptor bytes) :=
  writeAll_go_progress opened (Nat.le_refl _)

/-- Bytes that have all been written, by however many writes, are appended to the file. -/
theorem writeAll_eq_ok (opened : disk.fileOf? descriptor = some number)
    (writes : disk.writeAll descriptor bytes = (.ok (), after)) :
    ∃ calls, after = { disk.appendTo number bytes with calls := calls } := by
  rcases writeAll_progress opened bytes with ⟨taken, made, progress⟩
  have grown := progress.grown
  rw [writes] at progress grown
  rw [progress.whole rfl] at grown
  exact ⟨_, grown⟩

theorem sync_eq (opened : disk.fileOf? descriptor = some number) :
    disk.sync descriptor =
      (Trouble.meet (disk.trouble.sync disk.calls.syncs), disk.called 0 1) := by
  simp only [sync, opened]
  cases disk.trouble.sync disk.calls.syncs <;> rfl

/-! ## Entries -/

theorem entries_writeOnce (disk : Disk) (descriptor : Nat) (bytes : List UInt8) :
    (disk.writeOnce descriptor bytes).2.entries = disk.entries := by
  simp only [writeOnce]
  split
  · rfl
  · split <;> rfl

theorem entries_writeAll_go (descriptor left : Nat) (disk : Disk) (bytes : List UInt8) :
    (writeAll.go descriptor left disk bytes).2.entries = disk.entries := by
  induction left generalizing disk bytes with
  | zero => rfl
  | succ left ih =>
      have once := entries_writeOnce disk descriptor bytes
      rw [writeAll.go]
      split
      · rfl
      · split
        · rename_i count between writes
          rw [writes] at once
          rw [ih, once]
        · rename_i fault between writes
          rw [writes] at once
          exact once

theorem entries_sync (disk : Disk) (descriptor : Nat) :
    (disk.sync descriptor).2.entries = disk.entries := by
  simp only [sync]
  split
  · rfl
  · split <;> rfl

end Disk

end LogRelay
