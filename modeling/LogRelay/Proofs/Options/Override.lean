import LogRelay.Proofs.Options.Layers
import Mathlib.Data.List.Nodup

/-!
# One layer over another

Values for options are a mapping: each option has one value at most. With one layer over another, an
option has the value of the later layer, or else that of the earlier one (`Assignments.lookup_override`).
Which options have values, and in which order, follows from the options of both layers alone
(`Assignments.keys_override`). The file, the environment and the command line give mappings, and the
latter two no nulls.
-/

namespace LogRelay

open LogRelay.Fallible
open Options (Value)

namespace Assignments

/-- The options that are given values. -/
def keys (assignments : Assignments) : List Key := assignments.map Prod.fst

/-- Each option is given one value at most. -/
def Distinct (assignments : Assignments) : Prop := assignments.keys.Nodup

variable {assignments other later last : Assignments}

theorem mem_keys_of_mem {key : Key} {value : Value} (mem : (key, value) ∈ assignments) :
    key ∈ assignments.keys :=
  List.mem_map_of_mem mem

theorem exists_of_mem_keys {key : Key} (mem : key ∈ assignments.keys) :
    ∃ value, (key, value) ∈ assignments := by
  rcases List.mem_map.mp mem with ⟨⟨key, value⟩, is_given, rfl⟩
  exact ⟨value, is_given⟩

theorem Distinct.perm (distinct : assignments.Distinct) (rearranged : other.Perm assignments) :
    other.Distinct :=
  (rearranged.map Prod.fst).nodup_iff.mpr distinct

theorem lookup_cons (key named : Key) (value : Value) (assignments : Assignments) :
    List.lookup key ((named, value) :: assignments) =
      if key = named then some value else assignments.lookup key := by
  rw [List.lookup_cons]
  by_cases here : key = named
  · simp [here]
  · simp [here, beq_eq_false_iff_ne.mpr here]

theorem lookup_eq_none_iff {key : Key} :
    assignments.lookup key = none ↔ key ∉ assignments.keys := by
  rw [List.lookup_eq_none_iff]
  constructor
  · intro none_given mem
    rcases exists_of_mem_keys mem with ⟨value, is_given⟩
    simpa using none_given _ is_given
  · rintro not_key ⟨other, value⟩ is_given
    rw [bne_iff_ne]
    rintro rfl
    exact not_key (mem_keys_of_mem is_given)

/-- The options with one that is given a value. -/
def withKey (keys : List Key) (key : Key) : List Key :=
  if key ∈ keys then keys else keys ++ [key]

theorem keys_put (key : Key) (value : Value) (assignments : Assignments) :
    (assignments.put key value).keys = withKey assignments.keys key := by
  induction assignments with
  | nil => rfl
  | cons assignment assignments ih =>
      rcases assignment with ⟨first, old⟩
      rw [put]
      split
      · rename_i same
        simp [keys, withKey, same]
      · rename_i differs
        have later : key ∈ keys ((first, old) :: assignments) ↔ key ∈ keys assignments := by
          simp [keys, Ne.symm differs]
        rw [withKey, if_congr later rfl rfl]
        show first :: keys (put key value assignments) = _
        rw [ih, withKey]
        split <;> rfl

theorem Distinct.put (distinct : assignments.Distinct) (key : Key) (value : Value) :
    (assignments.put key value).Distinct := by
  rw [Distinct, keys_put, withKey]
  split
  · exact distinct
  · rename_i new
    exact distinct.append (List.nodup_singleton key) (List.disjoint_singleton.mpr new)

/-! ## One layer over another -/

theorem Distinct.override (distinct : assignments.Distinct) (later : Assignments) :
    (assignments.override later).Distinct := by
  induction later generalizing assignments with
  | nil => exact distinct
  | cons assignment later ih => exact ih (distinct.put assignment.1 assignment.2)

theorem keys_ofEntries (entries : List (Value × Value)) :
    (ofEntries entries).keys = (namesOf entries).filterMap Key.ofWording? := by
  rw [keys, ofEntries, namesOf, List.map_filterMap, List.filterMap_filterMap]
  congr
  funext ⟨key, value⟩
  simp only [Option.map_map]
  exact Option.map_id' ..

theorem distinct_ofEntries {entries : List (Value × Value)} (distinct : (namesOf entries).Nodup) :
    (ofEntries entries).Distinct := by
  -- Names that are different are not the names of one option.
  have name_of {name : Wording} {key : Key} (is_key : Key.ofWording? name = some key) :
      name = Wording.ofText key.name := by
    rcases Option.bind_eq_some_iff.mp is_key with ⟨text, is_text, named⟩
    have same := List.find?_some named
    rw [eq_of_beq same]
    exact Wording.text?_eq_some_iff.mp is_text
  rw [Distinct, keys_ofEntries]
  refine distinct.filterMap ?_
  intro name other key is_key is_other
  rw [name_of is_key, name_of is_other]

variable {reader : DocumentReader} {files : Files} {file : Assignments} {journal : Journal}

theorem distinct_ofDocument {path : Wording} {document : Document}
    (names : ∀ entries, document = .mapping entries → (namesOf entries).Nodup)
    (holds : ofDocument path document = (.ok file, journal)) : file.Distinct := by
  rw [ofDocument.eq_def] at holds
  split at holds
  · rw [ofMapping] at holds
    split at holds
    · cases holds
    · cases holds
      exact distinct_ofEntries (names _ rfl)
  · cases holds
    exact List.nodup_nil
  · cases holds

theorem distinct_ofFile (distinct : reader.Distinct) {path : Wording}
    (holds : ofFile reader files path = (.ok file, journal)) : file.Distinct := by
  rw [ofFile] at holds
  split at holds
  · split at holds
    · cases holds
      exact List.nodup_nil
    · cases holds
  · split at holds
    · cases holds
    · rename_i document is_document
      refine distinct_ofDocument ?_ holds
      rintro entries rfl
      exact distinct _ _ is_document

theorem distinct_ofPath (distinct : reader.Distinct) {path : Option Wording}
    (holds : ofPath reader files path = (.ok file, journal)) : file.Distinct := by
  cases path with
  | none =>
      cases holds
      exact List.nodup_nil
  | some path =>
      rw [ofPath] at holds
      split at holds
      · cases holds
        exact List.nodup_nil
      · exact distinct_ofFile distinct holds

theorem distinct_ofEnvironment (environment : Environment) : (ofEnvironment environment).Distinct := by
  have all_distinct : Key.all.Nodup := by decide
  rw [Distinct, keys, ofEnvironment, List.map_filterMap]
  refine all_distinct.filterMap ?_
  intro key other found is_key is_other
  simp only [Option.map_map, Option.mem_def, Option.map_eq_some_iff] at is_key is_other
  rcases is_key with ⟨text, -, rfl⟩
  rcases is_other with ⟨text, -, same⟩
  exact same.symm

theorem not_mem_ofEnvironment_null (key : Key) (environment : Environment) :
    (key, .null) ∉ ofEnvironment environment := by
  intro mem
  rcases List.mem_filterMap.mp mem with ⟨named, -, given⟩
  rcases Option.map_eq_some_iff.mp given with ⟨text, -, same⟩
  cases same

end Assignments

/-! ## The command line -/

open Assignments

/-- The option to which a switch gives a value. -/
def Purpose.key? : Purpose → Option Key
  | turnOn key | text key | integer key | double key => some key
  | help | remote | file => none

/-- Each option has one value at most, none is null, and the options of a remote host have none. -/
structure Assignments.OfSwitches (assignments : Assignments) : Prop where
  distinct : assignments.Distinct
  given : ∀ key value, (key, value) ∈ assignments →
    value ≠ .null ∧ key ≠ .remoteHost ∧ key ≠ .remotePort

namespace CommandLine

theorem apply_cases {line after : CommandLine} {use : Use} (applied : line.apply use = .ok after) :
    after.assignments = line.assignments ∨ ∃ key value, use.switch.purpose.key? = some key ∧
      after.assignments = line.assignments.put key value ∧ value ≠ .null := by
  rw [apply] at applied
  split at applied
  case h_1 => cases applied
  case h_2 key is_purpose =>
    cases applied
    exact .inr ⟨key, _, by rw [is_purpose]; rfl, rfl, by rintro ⟨⟩⟩
  case h_3 | h_4 =>
    cases applied
    exact .inl rfl
  case h_5 key text is_purpose _ =>
    cases applied
    refine .inr ⟨key, _, by rw [is_purpose]; rfl, rfl, ?_⟩
    split <;> rintro ⟨⟩
  case h_6 key text is_purpose _ | h_7 key text is_purpose _ =>
    split at applied
    · cases applied
      exact .inr ⟨key, _, by rw [is_purpose]; rfl, rfl, by rintro ⟨⟩⟩
    · split at applied
      · cases applied
        exact .inr ⟨key, _, by rw [is_purpose]; rfl, rfl, by rintro ⟨⟩⟩
      · cases applied
  case h_8 => cases applied

theorem ofSwitches_apply {line after : CommandLine} {use : Use} (known : use.switch ∈ Switch.all)
    (kept : line.assignments.OfSwitches) (applied : line.apply use = .ok after) :
    after.assignments.OfSwitches := by
  have not_remote : ∀ switch ∈ Switch.all, switch.purpose.key? ≠ some .remoteHost ∧
      switch.purpose.key? ≠ some .remotePort := by
    decide
  rcases apply_cases applied with same | ⟨key, value, is_key, same, not_null⟩
  · rw [same]
    exact kept
  · rw [same]
    refine ⟨kept.distinct.put key value, ?_⟩
    intro other found mem
    rcases mem_of_mem_put mem with here | before
    · cases here
      rcases not_remote use.switch known with ⟨not_host, not_port⟩
      rw [is_key] at not_host not_port
      exact ⟨not_null, fun same => not_host (congrArg some same),
        fun same => not_port (congrArg some same)⟩
    · exact kept.given other found before

theorem ofSwitches_assignments {texts : List Wording} {line : CommandLine}
    (made : read texts = .ok line) : line.assignments.OfSwitches :=
  read_keeps ofSwitches_apply ⟨List.nodup_nil, nofun⟩ made

theorem distinct_allAssignments {texts : List Wording} {line : CommandLine}
    (made : read texts = .ok line) : line.allAssignments.Distinct := by
  have switches := ofSwitches_assignments made
  rw [Distinct, keys, allAssignments, List.map_append]
  -- No switch gives host or port by itself, so behind the others they are new.
  refine List.Nodup.append switches.distinct ?_ ?_
  · split <;> simp
  · intro key mem remote
    rcases exists_of_mem_keys mem with ⟨value, given⟩
    rcases switches.given key value given with ⟨-, not_host, not_port⟩
    split at remote
    · simp [not_host, not_port] at remote
    · cases remote

theorem not_mem_allAssignments_null {texts : List Wording} {line : CommandLine}
    (made : read texts = .ok line) (key : Key) : (key, .null) ∉ line.allAssignments := by
  intro mem
  rcases List.mem_append.mp mem with given | remote
  · exact ((ofSwitches_assignments made).given key .null given).1 rfl
  · split at remote
    · simp at remote
    · cases remote

end CommandLine

end LogRelay
