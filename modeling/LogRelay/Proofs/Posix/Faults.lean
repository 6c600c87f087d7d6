import LogRelay.Posix.Disk
import LogRelay.Proofs.Fallible

/-!
# Which failures calls meet

A call on a disk fails by the operating system, unless its path holds a zero byte or the disk has
other trouble ahead. A failure comes from following a path, from the state of the disk or from its
trouble, and no call changes what trouble is ahead.
-/

namespace LogRelay

open LogRelay.Fallible

/-- A call yields something of a kind, or fails by the operating system. -/
def Yields {Found : Type} (call : Except SystemFault Found) (kind : Found → Prop) : Prop :=
  match call with
  | .ok found => kind found
  | .error fault => fault.isSystem = true

namespace Yields

variable {Found Result : Type} {kind : Found → Prop} {other : Result → Prop}

theorem error {fault : SystemFault} (isSystem : fault.isSystem = true) :
    Yields (.error fault) kind :=
  isSystem

/-- Two calls one after the other. -/
theorem bind {call : Except SystemFault Found} {next : Found → Except SystemFault Result}
    (first : Yields call kind) (second : ∀ found, kind found → Yields (next found) other) :
    Yields (call >>= next) other := by
  cases call with
  | error fault => exact first
  | ok found => exact second found first

/-- A call that is refused under a condition. -/
theorem refuse {condition : Prop} [Decidable condition] {fault : SystemFault}
    {next : Unit → Except SystemFault Result} (isSystem : fault.isSystem = true)
    (goes_on : ¬condition → Yields (next ()) other) :
    Yields (if condition then throw fault >>= next else next ()) other := by
  split
  · exact isSystem
  · rename_i not_refused
    exact goes_on not_refused

theorem isSystem {call : Except SystemFault Found} (yields : Yields call kind) {fault : SystemFault}
    (fails : call = .error fault) : fault.isSystem = true := by
  rw [fails] at yields
  exact yields

theorem of_ok {call : Except SystemFault Found} (yields : Yields call kind) {found : Found}
    (ends_well : call = .ok found) : kind found := by
  rw [ends_well] at yields
  exact yields

end Yields

/-- The trouble ahead comes from the operating system. -/
structure Trouble.Tame (trouble : Trouble) : Prop where
  write : ∀ made fault, (trouble.write made).fault = some fault → fault.isSystem = true
  sync : ∀ made fault, trouble.sync made = some fault → fault.isSystem = true
  close : ∀ made fault, trouble.close made = some fault → fault.isSystem = true
  openAppend : ∀ made fault, trouble.openAppend made = some fault → fault.isSystem = true
  rename : ∀ made fault, trouble.rename made = some fault → fault.isSystem = true

theorem Trouble.tame_none : Trouble.none.Tame := by
  constructor <;> simp [Trouble.none]

theorem Trouble.meet_yields {met : Option SystemFault}
    (tame : ∀ fault, met = some fault → fault.isSystem = true) : Yields (meet met) fun _ => True := by
  cases met with
  | none => trivial
  | some fault => exact tame fault rfl

/-- A path without a zero byte. -/
def Path.Zeroless (text : String) : Prop := '\x00' ∉ text.toList

theorem Path.Zeroless.old {text : String} (zeroless : Zeroless text) : Zeroless (text ++ ".old") := by
  rw [Zeroless, String.toList_append, List.mem_append]
  rintro (before | behind)
  · exact zeroless before
  · revert behind
    decide

theorem Path.ofText_yields {text : String} (zeroless : Zeroless text) :
    Yields (ofText text) fun _ => True := by
  rw [ofText, if_neg (by simpa [Zeroless] using zeroless)]
  split
  · exact .error rfl
  · split
    · exact .error rfl
    · trivial

theorem Path.zeroless_of_ofText {text : String} {path : Path} (resolves : ofText text = .ok path) :
    Zeroless text := by
  intro zero
  rw [ofText, if_pos (by simpa using zero)] at resolves
  cases resolves

namespace Disk

variable {disk : Disk} {text : String}

/-! ## Following paths -/

theorem follow_yields (disk : Disk) (location : Location) (names : List String) :
    Yields (disk.follow location names) fun _ => True := by
  induction names generalizing location with
  | nil => trivial
  | cons name names ih =>
      rw [follow]
      split
      · exact .error rfl
      · simp only
        split
        · exact ih _
        · exact .error rfl
        · exact .error rfl

theorem target_yields (disk : Disk) (zeroless : Path.Zeroless text) :
    Yields (disk.target text) fun _ => True := by
  apply Yields.bind (Path.ofText_yields zeroless)
  intro path _
  apply Yields.bind (follow_yields disk [] path.before)
  intro parent _
  split
  · trivial
  · apply Yields.refuse rfl
    intro _
    trivial

theorem find_yields (disk : Disk) (zeroless : Path.Zeroless text) :
    Yields (disk.find text) fun _ => True := by
  apply Yields.bind (target_yields disk zeroless)
  intro found _
  split
  · exact .error rfl
  · trivial
  · apply Yields.refuse rfl
    intro _
    trivial

theorem size_yields (disk : Disk) (zeroless : Path.Zeroless text) :
    Yields (disk.size text) fun _ => True := by
  apply Yields.bind (find_yields disk zeroless)
  rintro ⟨location, node⟩ _
  cases node <;> trivial

/-! ## Opening and renaming -/

theorem openFile_yields (disk : Disk) (zeroless : Path.Zeroless text) (mode : Nat) :
    Yields (disk.openFile text mode) fun opened => opened.1.trouble = disk.trouble := by
  apply Yields.bind (target_yields disk zeroless)
  intro found _
  apply Yields.refuse rfl
  intro _
  split
  · exact .error rfl
  · exact rfl
  · exact rfl

theorem openAppend_yields (tame : disk.trouble.Tame) (zeroless : Path.Zeroless text) (mode : Nat) :
    Yields (disk.openAppend text mode) fun opened => opened.1.trouble = disk.trouble := by
  apply Yields.bind (openFile_yields disk zeroless mode)
  intro opened same
  rw [← same] at tame
  apply Yields.bind (Trouble.meet_yields (tame.openAppend opened.1.calls))
  intro _ _
  exact same

theorem overwrite_yields (disk : Disk) (zeroless : Path.Zeroless text) (content : List UInt8) :
    Yields (disk.overwrite text content) fun after => after.trouble = disk.trouble := by
  apply Yields.bind (openFile_yields disk zeroless 0o644)
  intro opened same
  exact same

theorem checkReplace_yields (disk : Disk) (location : Location) (moved replaced : Node) :
    Yields (disk.checkReplace location moved replaced) fun _ => True := by
  cases moved <;> cases replaced
  · rw [checkReplace]
    split
    · trivial
    · exact .error rfl
  · exact .error rfl
  · exact .error rfl
  · trivial

theorem rename_yields {source destination : String} (tame : disk.trouble.Tame)
    (zeroless_source : Path.Zeroless source) (zeroless_destination : Path.Zeroless destination) :
    Yields (disk.rename source destination) fun after => after.trouble = disk.trouble := by
  apply Yields.bind (target_yields disk zeroless_source)
  intro old _
  apply Yields.bind (target_yields disk zeroless_destination)
  intro new _
  apply Yields.bind (Trouble.meet_yields (tame.rename disk.calls))
  intro _ _
  apply Yields.refuse rfl
  intro _
  split
  · exact .error rfl
  · -- the three ways in which an entry cannot be moved there
    apply Yields.refuse rfl
    intro _
    apply Yields.refuse rfl
    intro _
    apply Yields.refuse rfl
    intro _
    split
    · exact rfl
    · split
      · exact rfl
      · apply Yields.bind (checkReplace_yields disk _ _ _)
        intro _ _
        exact rfl

/-- A path that could be opened holds no zero byte. -/
theorem zeroless_of_openFile {mode : Nat} {opened : Disk × Nat}
    (opens : disk.openFile text mode = .ok opened) : Path.Zeroless text := by
  rcases bind_eq_ok.mp opens with ⟨found, reaches, -⟩
  rcases bind_eq_ok.mp reaches with ⟨path, resolves, -⟩
  exact Path.zeroless_of_ofText resolves

theorem zeroless_of_openAppend {mode : Nat} {opened : Disk × Nat}
    (opens : disk.openAppend text mode = .ok opened) : Path.Zeroless text := by
  rcases bind_eq_ok.mp opens with ⟨file, opens_file, -⟩
  exact zeroless_of_openFile opens_file

theorem trouble_overwrite {content : List UInt8} {after : Disk}
    (writes : disk.overwrite text content = .ok after) : after.trouble = disk.trouble := by
  rcases bind_eq_ok.mp writes with ⟨opened, opens, -⟩
  exact (overwrite_yields disk (zeroless_of_openFile opens) content).of_ok writes

/-! ## Descriptors -/

theorem close_yields (tame : disk.trouble.Tame) (descriptor : Nat) :
    Yields (disk.close descriptor).1 (fun _ => True) ∧
      (disk.close descriptor).2.trouble = disk.trouble := by
  rw [close]
  split
  · exact ⟨.error rfl, rfl⟩
  · refine ⟨?_, rfl⟩
    simp only
    split
    · rename_i fault met
      exact .error (tame.close _ fault met)
    · trivial

theorem writeOnce_yields (tame : disk.trouble.Tame) (descriptor : Nat) (bytes : List UInt8) :
    Yields (disk.writeOnce descriptor bytes).1 (fun _ => True) ∧
      (disk.writeOnce descriptor bytes).2.trouble = disk.trouble := by
  simp only [writeOnce]
  split
  · rename_i fault met
    exact ⟨.error (tame.write _ fault met), rfl⟩
  · split
    · exact ⟨.error rfl, rfl⟩
    · exact ⟨trivial, rfl⟩

theorem writeAll_go_yields (tame : disk.trouble.Tame) (descriptor left : Nat) (bytes : List UInt8) :
    Yields (writeAll.go descriptor left disk bytes).1 (fun _ => True) ∧
      (writeAll.go descriptor left disk bytes).2.trouble = disk.trouble := by
  induction left generalizing disk bytes with
  | zero => exact ⟨trivial, rfl⟩
  | succ left ih =>
      rw [writeAll.go]
      split
      · exact ⟨trivial, rfl⟩
      · rcases writeOnce_yields tame descriptor bytes with ⟨yields, kept⟩
        split
        · rename_i count between writes
          rw [writes] at kept
          rw [← kept] at tame ⊢
          exact ih tame _
        · rename_i fault between writes
          rw [writes] at yields kept
          exact ⟨yields, kept⟩

theorem writeAll_yields (tame : disk.trouble.Tame) (descriptor : Nat) (bytes : List UInt8) :
    Yields (disk.writeAll descriptor bytes).1 (fun _ => True) ∧
      (disk.writeAll descriptor bytes).2.trouble = disk.trouble :=
  writeAll_go_yields tame descriptor bytes.length bytes

theorem sync_yields (tame : disk.trouble.Tame) (descriptor : Nat) :
    Yields (disk.sync descriptor).1 (fun _ => True) ∧
      (disk.sync descriptor).2.trouble = disk.trouble := by
  simp only [sync]
  split
  · rename_i fault met
    exact ⟨.error (tame.sync _ fault met), rfl⟩
  · split
    · exact ⟨.error rfl, rfl⟩
    · exact ⟨trivial, rfl⟩

end Disk

end LogRelay
