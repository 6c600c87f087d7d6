import LogRelay.Proofs.Fallible
import LogRelay.Proofs.Posix.Path
import LogRelay.Proofs.Posix.Sound

/-!
# Calls of the operating system

What a call makes of a sound disk when it succeeds. A path that ends in a name leads to a location,
and it goes on leading there as long as no directory is made or removed
(`Leads.of_sameDirectories`).

Opening, writing through and closing a descriptor let the file at one location grow and leave
everything else as it is (`Grows`).
-/

namespace LogRelay.Disk

open LogRelay.Fallible

/-! ## Where paths lead -/

/-- The disks have the same directories. -/
def SameDirectories (before after : Disk) : Prop :=
  ∀ location, after.node? location = some .directory ↔ before.node? location = some .directory

theorem SameDirectories.symm {before after : Disk} (same : SameDirectories before after) :
    SameDirectories after before :=
  fun location => (same location).symm

theorem sameDirectories_create {disk : Disk} {location : Location}
    (free : disk.node? location = none) (mode : Nat) :
    SameDirectories disk (disk.create location mode).1 := by
  intro other
  rw [node?_create free]
  by_cases same : other = location
  · simp [same, free]
  · rw [if_neg same]

theorem sameDirectories_move {disk : Disk} (sound : disk.Sound) {source destination : Location}
    {number : Nat} (differ : source ≠ destination)
    (is_file : disk.node? source = some (.file number))
    (replaceable : disk.node? destination ≠ some .directory) :
    SameDirectories disk (disk.move source destination) := by
  intro other
  rw [node?_move sound differ is_file replaceable]
  by_cases at_destination : other = destination
  · simp [at_destination, replaceable]
  · by_cases at_source : other = source
    · simp [at_source, is_file, differ]
    · rw [if_neg at_destination, if_neg at_source]

theorem follow_of_sameDirectories {before after : Disk} (same : SameDirectories before after)
    {location reached : Location} {names : List String}
    (follows : before.follow location names = .ok reached) :
    after.follow location names = .ok reached := by
  induction names generalizing location with
  | nil => exact follows
  | cons name names ih =>
      rw [follow] at follows ⊢
      split at follows
      · cases follows
      · rename_i short
        rw [if_neg short]
        simp only at follows ⊢
        split at follows
        · rename_i directory
          rw [(same _).mpr directory]
          exact ih follows
        · cases follows
        · cases follows

/-- Following a path ends in a directory. -/
theorem node?_of_follow {disk : Disk} {location reached : Location} {names : List String}
    (directory : disk.node? location = some .directory)
    (follows : disk.follow location names = .ok reached) :
    disk.node? reached = some .directory := by
  induction names generalizing location with
  | nil =>
      cases follows
      exact directory
  | cons name names ih =>
      rw [follow] at follows
      split at follows
      · cases follows
      · simp only at follows
        split at follows
        · rename_i is_directory
          exact ih is_directory follows
        · cases follows
        · cases follows

/-- The path ends in a name and leads to the location. -/
def Leads (disk : Disk) (text : String) (location : Location) : Prop :=
  disk.target text = .ok ⟨location, false, false⟩

theorem leads_iff {disk : Disk} {text : String} {location : Location} :
    disk.Leads text location ↔
      ∃ before name parent, Path.ofText text = .ok ⟨before, .name name false⟩ ∧
        disk.follow [] before = .ok parent ∧ Utf8.size name ≤ Path.nameLimit ∧
        location = parent ++ [name] := by
  simp only [Leads, target, bind_eq_ok]
  constructor
  · rintro ⟨⟨before, last⟩, resolves, parent, follows, ends⟩
    cases last with
    | step name => simp at ends
    | name name slash =>
        simp only at ends
        split at ends
        · simp at ends
        · rename_i fits
          simp only [pure_eq_ok, Except.ok.injEq, Target.mk.injEq, true_and] at ends
          rcases ends with ⟨rfl, rfl⟩
          exact ⟨before, name, parent, resolves, follows, Nat.le_of_not_lt fits, rfl⟩
  · rintro ⟨before, name, parent, resolves, follows, fits, rfl⟩
    refine ⟨_, resolves, parent, follows, ?_⟩
    simp [Nat.not_lt.mpr fits]

/-- A path that does not ask for a directory ends in a name. -/
theorem leads_of_target {disk : Disk} {text : String} {location : Location} {step : Bool}
    (reaches : disk.target text = .ok ⟨location, step, false⟩) : disk.Leads text location := by
  rw [Leads, reaches]
  simp only [target, bind_eq_ok] at reaches
  rcases reaches with ⟨⟨before, last⟩, -, parent, -, ends⟩
  cases last with
  | step name => simp at ends
  | name name slash =>
      simp only at ends
      split at ends
      · simp at ends
      · simp only [pure_eq_ok, Except.ok.injEq, Target.mk.injEq] at ends
        rw [← ends.2.1]

theorem Leads.unique {disk : Disk} {text : String} {first second : Location}
    (leads_first : disk.Leads text first) (leads_second : disk.Leads text second) :
    first = second := by
  rw [Leads, leads_first] at leads_second
  cases leads_second
  rfl

/-- Paths lead where they led as long as the directories stay. -/
theorem Leads.of_sameDirectories {before after : Disk} {text : String} {location : Location}
    (leads : before.Leads text location) (same : SameDirectories before after) :
    after.Leads text location := by
  rcases leads_iff.mp leads with ⟨names, name, parent, resolves, follows, fits, rfl⟩
  exact leads_iff.mpr
    ⟨names, name, parent, resolves, follow_of_sameDirectories same follows, fits, rfl⟩

/-- The last name of a path stands in a directory. -/
theorem Leads.exists_parent {disk : Disk} {text : String} {location : Location}
    (leads : disk.Leads text location) :
    ∃ parent name, location = parent ++ [name] ∧ disk.node? parent = some .directory := by
  rcases leads_iff.mp leads with ⟨names, name, parent, -, follows, -, rfl⟩
  have directory : disk.node? [] = some .directory := rfl
  exact ⟨parent, name, rfl, node?_of_follow directory follows⟩

/-- With `.old` behind it, a path that leads somewhere leads to another name, or is too long. -/
theorem Leads.old {disk : Disk} {text : String} {location : Location}
    (leads : disk.Leads text location) :
    (∃ old, disk.Leads (text ++ ".old") old ∧ old ≠ location) ∨
      ∃ fault, disk.target (text ++ ".old") = .error fault := by
  rcases leads_iff.mp leads with ⟨names, name, parent, resolves, follows, -, rfl⟩
  rcases Path.ofText_append_old resolves with too_long | resolves_old
  · right
    exact ⟨.nameTooLong, by simp [target, too_long]⟩
  · by_cases fits : Utf8.size (name ++ ".old") ≤ Path.nameLimit
    · left
      refine ⟨parent ++ [name ++ ".old"],
        leads_iff.mpr ⟨names, _, parent, resolves_old, follows, fits, rfl⟩, ?_⟩
      intro same
      have same_name := (List.append_inj' same rfl).2
      simp only [List.cons.injEq, and_true] at same_name
      exact Path.append_old_ne name same_name
    · right
      refine ⟨.nameTooLong, ?_⟩
      simp [target, resolves_old, follows, Nat.lt_of_not_le fits]

/-! ## Calls -/

section calls

variable {disk : Disk} {text : String} {location : Location}

theorem read_of_leads (sound : disk.Sound) (leads : disk.Leads text location) :
    (disk.read text).toOption = disk.contentAt? location := by
  rw [Leads] at leads
  cases at_location : disk.node? location with
  | none =>
      simp [read, find, leads, at_location, contentAt?, Except.toOption]
  | some node =>
      cases node with
      | directory =>
          simp [read, find, leads, at_location, contentAt?, Except.toOption]
      | file number =>
          rcases sound.held location number at_location with ⟨file, found⟩
          simp [read, find, leads, at_location, contentAt?, found, Except.toOption]

theorem read_of_error {fault : SystemFault} (fails : disk.target text = .error fault) :
    (disk.read text).toOption = none := by
  simp [read, find, fails, Except.toOption]

theorem size_of_leads {number : Nat} (sound : disk.Sound) (leads : disk.Leads text location)
    (is_file : disk.node? location = some (.file number)) :
    disk.size text = .ok ((disk.contentAt? location).getD []).length := by
  rw [Leads] at leads
  rcases sound.held location number is_file with ⟨file, found⟩
  simp [size, find, leads, is_file, contentAt?, found]

end calls

/-! ## Growing files -/

/-- The disk afterwards has the same directories, the file at a location has grown by some bytes,
which may have created it, and nothing has changed elsewhere. -/
structure Grows (before after : Disk) (location : Location) (bytes : List UInt8) : Prop where
  sound : after.Sound
  directories : SameDirectories before after
  elsewhere : ∀ other, other ≠ location →
    after.node? other = before.node? other ∧ after.contentAt? other = before.contentAt? other
  grown : (after.contentAt? location).getD [] = (before.contentAt? location).getD [] ++ bytes
  stays : ∀ number, before.node? location = some (.file number) →
    after.node? location = some (.file number)

namespace Grows

variable {before after later : Disk} {location : Location} {bytes : List UInt8}

theorem refl (sound : before.Sound) (location : Location) : Grows before before location [] :=
  ⟨sound, fun _ => Iff.rfl, fun _ _ => ⟨rfl, rfl⟩, (List.append_nil _).symm, fun _ is_file => is_file⟩

/-- Descriptors and the numbers of calls say nothing about files. -/
theorem same_files (grows : Grows before after location bytes)
    (entries : later.entries = after.entries) (files : later.files = after.files)
    (next : after.next ≤ later.next) : Grows before later location bytes := by
  have same_node : ∀ other, later.node? other = after.node? other := by
    intro other
    simp only [node?, entries]
  have same_content : ∀ other, later.contentAt? other = after.contentAt? other := by
    intro other
    simp only [contentAt?, same_node, file?, files]
  refine ⟨grows.sound.congr entries files next, ?_, ?_, ?_, ?_⟩
  · intro other
    rw [same_node, grows.directories]
  · intro other differs
    rw [same_node, same_content]
    exact grows.elsewhere other differs
  · rw [same_content, grows.grown]
  · intro number is_file
    rw [same_node]
    exact grows.stays number is_file

theorem create (sound : before.Sound) {text : String} (leads : before.Leads text location)
    (free : before.node? location = none) (mode : Nat) :
    Grows before (before.create location mode).1 location [] := by
  rcases leads.exists_parent with ⟨parent, name, rfl, directory⟩
  refine ⟨sound.create directory free mode, sameDirectories_create free mode, ?_, ?_, ?_⟩
  · intro other differs
    rw [node?_create free, contentAt?_create sound free, if_neg differs, if_neg differs]
    exact ⟨rfl, rfl⟩
  · have nothing : before.contentAt? (parent ++ [name]) = none := by
      simp [contentAt?, free]
    rw [contentAt?_create sound free, if_pos rfl, nothing]
    rfl
  · intro number is_file
    rw [free] at is_file
    cases is_file

theorem appendTo (sound : before.Sound) {number : Nat}
    (is_file : before.node? location = some (.file number)) (bytes : List UInt8) :
    Grows before (before.appendTo number bytes) location bytes := by
  refine ⟨sound.appendTo number bytes, fun _ => Iff.rfl, ?_, ?_, fun _ unchanged => unchanged⟩
  · intro other differs
    rw [contentAt?_appendTo sound is_file, if_neg differs]
    exact ⟨rfl, rfl⟩
  · rcases sound.held location number is_file with ⟨file, found⟩
    have content : before.contentAt? location = some file.content := by
      simp [contentAt?, is_file, found]
    rw [contentAt?_appendTo sound is_file, if_pos rfl, content]
    rfl

end Grows

section calls

variable {disk after : Disk} {text : String}

/-- A file is opened that is there, or a new one is made. -/
theorem openFile_cases {mode number : Nat} (opens : disk.openFile text mode = .ok (after, number)) :
    ∃ location, disk.Leads text location ∧
      ((disk.node? location = some (.file number) ∧ after = disk) ∨
        (disk.node? location = none ∧ disk.create location mode = (after, number))) := by
  simp only [openFile, bind_eq_ok] at opens
  rcases opens with ⟨⟨location, step, slash⟩, reaches, finds⟩
  cases slash with
  | true => simp at finds
  | false =>
      refine ⟨location, leads_of_target reaches, ?_⟩
      simp only [Bool.false_eq_true, if_false] at finds
      split at finds
      · simp at finds
      · rename_i found at_location
        simp only [pure_eq_ok, Except.ok.injEq, Prod.mk.injEq] at finds
        rcases finds with ⟨rfl, rfl⟩
        exact .inl ⟨at_location, rfl⟩
      · rename_i free
        simp only [pure_eq_ok, Except.ok.injEq] at finds
        exact .inr ⟨free, finds⟩

theorem openFile_eq_ok {mode number : Nat} (sound : disk.Sound)
    (opens : disk.openFile text mode = .ok (after, number)) :
    ∃ location, disk.Leads text location ∧ Grows disk after location [] ∧
      after.node? location = some (.file number) := by
  rcases openFile_cases opens with ⟨location, leads, ⟨at_location, rfl⟩ | ⟨free, creates⟩⟩
  · exact ⟨location, leads, Grows.refl sound location, at_location⟩
  · have created : (disk.create location mode).1 = after := congrArg Prod.fst creates
    have numbered : disk.next = number := congrArg Prod.snd creates
    refine ⟨location, leads, ?_, ?_⟩
    · rw [← created]
      exact Grows.create sound leads free mode
    · rw [← created, node?_create free, if_pos rfl, numbered]

/-- A file that is opened to be appended to may be created, and has not changed otherwise. -/
theorem openAppend_eq_ok {mode descriptor : Nat} (sound : disk.Sound)
    (opens : disk.openAppend text mode = .ok (after, descriptor)) :
    ∃ location number, disk.Leads text location ∧ Grows disk after location [] ∧
      after.node? location = some (.file number) ∧ after.fileOf? descriptor = some number := by
  simp only [openAppend, bind_eq_ok] at opens
  rcases opens with ⟨⟨opened, number⟩, opens_file, -, -, ends⟩
  simp only [pure_eq_ok, Except.ok.injEq, Prod.mk.injEq] at ends
  rcases ends with ⟨rfl, rfl⟩
  rcases openFile_eq_ok sound opens_file with ⟨location, leads, grows, at_location⟩
  refine ⟨location, number, leads, ?_, at_location, List.lookup_cons_self⟩
  exact grows.same_files rfl rfl (Nat.le_succ _)

end calls

end LogRelay.Disk
