import LogRelay.Proofs.Blob.Members
import Mathlib.Data.List.Nodup

/-!
# Two ways to read a table

Reading a whole table and reading what a policy asks for go through the same members and differ in
whose values they look at. So what can be read as a whole can be read by every policy, and by a policy
a name has the value of the last member of this name that the policy asks for, whatever else there is.
Where names differ, the policy only leaves entries of the whole table out (`parseTable_agrees`).
-/

namespace LogRelay.Blob

open LogRelay.Fallible

/-- The policy asks for a member of this name and type. -/
def Policy.picks (policy : Policy) (member : Member) : Bool :=
  policy member.label = some (member.type : Int)

/-- Both members have the same name and type, and the same value if the policy asks for them. -/
def Member.Alike (policy : Policy) (member other : Member) : Prop :=
  member.label = other.label ∧ member.type = other.type ∧
    (policy.picks member = true → member.value = other.value)

/-- The attribute cannot be read by a policy: it has no name or a bad one, or the policy asks for it
and its value is bad. -/
inductive IsFaulty (policy : Policy) (part : Attribute) : Prop where
  | unnamed (plain : part.extended = false)
  | misnamed {fault : Fault} (fails : splitName part.body = .error fault)
  | invalid {name : String} {value : List UInt8} {fault : Fault}
      (splits : splitName part.body = .ok (name, value))
      (picked : policy name = some (part.id : Int))
      (fails : decodeValue part.id value = .error fault)

/-- A table has the names for which the policy finds a member, each with the value of the last of
them. -/
structure Picked (policy : Policy) (members : List Member) (table : Table) : Prop where
  found : ∀ name, (∃ value, table.get? name = some value) ↔
    ∃ member ∈ members, member.label = name ∧ policy name = some (member.type : Int)
  last : ∀ name value, table.get? name = some value → ∃ member,
    (members.filter fun member => member.label = name ∧
      policy name = some (member.type : Int)).getLast? = some member ∧
    decodeValue member.type member.value = .ok value

variable {policy : Policy} {bytes : List UInt8}

/-! ## What is read -/

theorem parseTable_eq_ok_iff {table : Table} :
    parseTable policy bytes = .ok table ↔
      ∃ members entries, Members bytes members ∧
        List.Forall₂ Member.Gives (members.filter policy.picks) entries ∧
        table = Table.ofEntries entries := by
  rw [parseTable_eq]
  exact collect_readPart_eq_ok_iff

theorem decodeTable_eq_ok_iff {table : Table} :
    decodeTable bytes = .ok table ↔
      ∃ members entries, Members bytes members ∧ List.Forall₂ Member.Gives members entries ∧
        table = Table.ofEntries entries := by
  have every (members : List Member) : members.filter (·.isWanted fun _ _ => true) = members :=
    List.filter_eq_self.mpr fun _ _ => rfl
  rw [decodeTable_eq, collect_readPart_eq_ok_iff]
  simp only [every]

/-- What can be read as a whole can be read by a policy. -/
theorem exists_parseTable {decoded : Table} (reads : decodeTable bytes = .ok decoded) :
    ∃ parsed, parseTable policy bytes = .ok parsed := by
  rcases decodeTable_eq_ok_iff.mp reads with ⟨members, entries, holds, gives, -⟩
  have readable := exists_gives_iff.mp ⟨entries, gives⟩
  rcases exists_gives_iff.mpr (fun member mem => readable member
    (List.mem_of_mem_filter (p := policy.picks) mem)) with ⟨picked, picked_gives⟩
  exact ⟨_, parseTable_eq_ok_iff.mpr ⟨members, picked, holds, picked_gives, rfl⟩⟩

theorem filter_picks (policy : Policy) (members : List Member) (name : String) :
    (members.filter policy.picks).filter (·.label = name) =
      members.filter fun member => member.label = name ∧ policy name = some (member.type : Int) := by
  rw [List.filter_filter]
  congr 1
  funext member
  by_cases same : member.label = name
  · subst same
    simp [Policy.picks]
  · simp [same]

theorem picked_ofEntries {members : List Member} {entries : List (String × Value)}
    (gives : List.Forall₂ Member.Gives (members.filter policy.picks) entries) :
    Picked policy members (Table.ofEntries entries) := by
  have value_iff (name : String) (value : Value) :
      Table.lastValue? entries name = some value ↔
        ∃ member, ((members.filter policy.picks).filter (·.label = name)).getLast? = some member ∧
          decodeValue member.type member.value = .ok value :=
    lastValue?_eq_some_iff gives
  simp only [filter_picks, ← Table.get?_ofEntries] at value_iff
  refine ⟨fun name => ⟨?_, ?_⟩, fun name value => (value_iff name value).mp⟩
  · rintro ⟨value, is_value⟩
    rcases (value_iff name value).mp is_value with ⟨member, is_last, -⟩
    have mem := List.mem_filter.mp (List.mem_of_getLast? is_last)
    exact ⟨member, mem.1, by simpa using mem.2⟩
  · rintro ⟨member, member_mem, named⟩
    have some_member : members.filter (fun member => member.label = name ∧
        policy name = some (member.type : Int)) ≠ [] :=
      List.ne_nil_of_mem (List.mem_filter.mpr ⟨member_mem, by simpa using named⟩)
    have is_last := List.getLast?_eq_some_getLast some_member
    have last_mem := List.mem_filter.mp (List.getLast_mem some_member)
    have is_picked : policy.picks (List.getLast _ some_member) = true := by
      have named_last := of_decide_eq_true last_mem.2
      rw [Policy.picks, named_last.1]
      simpa using named_last.2
    rcases exists_gives_iff.mp ⟨entries, gives⟩ _ (List.mem_filter.mpr ⟨last_mem.1, is_picked⟩) with
      ⟨value, decoded⟩
    exact ⟨value, (value_iff name value).mpr ⟨_, is_last, decoded⟩⟩

/-! ## What is passed over -/

/-- Reading a part needs the value of its member only if that is wanted. -/
theorem readPart_of_isIn (wanted : String → Nat → Bool) {member : Member} {part : Attribute}
    (is_in : member.IsIn part) (table : Table) :
    readPart wanted table part =
      if member.isWanted wanted then
        (decodeValue member.type member.value).map (table.set member.label)
      else .ok table := by
  rw [readPart, memberParts_eq_ok_iff.mpr ⟨member, is_in, rfl, rfl⟩, ok_bind, is_in.2.1]
  rfl

/-- Members whose values a policy does not look at may have any values. -/
theorem parseTable_congr {other : List UInt8} {members others : List Member}
    (holds : Members bytes members) (holds_other : Members other others)
    (alike : List.Forall₂ (Member.Alike policy) members others) :
    parseTable policy other = parseTable policy bytes := by
  rcases holds with ⟨parts, sequence, are_in⟩
  rcases holds_other with ⟨other_parts, other_sequence, other_in⟩
  rw [parseTable_eq, parseTable_eq, collect, collect, scan_eq_iff.mpr sequence,
    scan_eq_iff.mpr other_sequence]
  congr 1
  simp only
  generalize ([] : Table) = start
  clear sequence other_sequence
  induction alike generalizing parts other_parts start with
  | nil =>
      cases are_in
      cases other_in
      rfl
  | @cons member other members others same alike ih =>
      rcases are_in with _ | ⟨is_in, are_in⟩
      rcases other_in with _ | ⟨other_is_in, other_in⟩
      rcases same with ⟨label, type, value⟩
      rw [List.foldlM_cons, List.foldlM_cons, readPart_of_isIn _ is_in,
        readPart_of_isIn _ other_is_in]
      have same_wanted : other.isWanted (fun name type => policy name = some (type : Int)) =
          policy.picks member := by
        rw [Member.isWanted, ← label, ← type]
        rfl
      have wanted_eq : member.isWanted (fun name type => policy name = some (type : Int)) =
          policy.picks member := rfl
      rw [same_wanted, wanted_eq, ← label, ← type]
      cases picked : policy.picks member with
      | true =>
          rw [← value picked]
          cases (decodeValue member.type member.value) with
          | error fault => rfl
          | ok found => exact ih _ are_in _ other_in _
      | false => exact ih _ are_in _ other_in _

/-! ## Where no name occurs twice -/

theorem Table.set_of_new (value : Value) {table : Table} {name : String}
    (is_new : name ∉ table.map Prod.fst) : table.set name value = table ++ [(name, value)] := by
  induction table with
  | nil => rfl
  | cons entry table ih =>
      rw [List.map_cons, List.mem_cons, not_or] at is_new
      rw [Table.set, if_neg (Ne.symm is_new.1), ih is_new.2, List.cons_append]

theorem Table.ofEntries_of_nodup {entries : List (String × Value)}
    (distinct : (entries.map Prod.fst).Nodup) : Table.ofEntries entries = entries := by
  induction entries using List.reverseRecOn with
  | nil => rfl
  | append_singleton entries entry ih =>
      rw [List.map_append, List.nodup_append] at distinct
      rw [Table.ofEntries_concat, ih distinct.1, Table.set_of_new]
      intro known
      exact distinct.2.2 _ known _ (by simp) rfl

theorem parseTable_of_nodup {decoded : Table} {members : List Member}
    (reads : decodeTable bytes = .ok decoded) (holds : Members bytes members)
    (distinct : (members.map Member.label).Nodup) :
    parseTable policy bytes = .ok (decoded.filter fun entry =>
      members.any fun member => member.label = entry.1 ∧ policy entry.1 = some (member.type : Int)) := by
  rcases decodeTable_eq_ok_iff.mp reads with ⟨others, entries, holds_others, gives, rfl⟩
  cases holds.unique holds_others
  have names : entries.map Prod.fst = members.map Member.label := by
    have same := List.forall₂_map_left_iff.mpr (List.forall₂_map_right_iff.mpr
      (gives.imp fun member entry gives_entry => gives_entry.1.symm))
    exact (List.forall₂_eq_eq_eq ▸ same).symm
  have distinct_names : (entries.map Prod.fst).Nodup := by rwa [names]
  have picked_iff : ∀ member ∈ members, ∀ entry : String × Value, entry.1 = member.label →
      ((members.any fun member => member.label = entry.1 ∧
        policy entry.1 = some (member.type : Int)) = true ↔ policy.picks member = true) := by
    intro member member_mem entry named
    rw [List.any_eq_true, Policy.picks, decide_eq_true_eq, named]
    constructor
    · rintro ⟨other, other_mem, picked⟩
      have same := of_decide_eq_true picked
      cases List.inj_on_of_nodup_map distinct other_mem member_mem same.1
      exact same.2
    · intro picked
      exact ⟨member, member_mem, by simpa using picked⟩
  have picked_gives : List.Forall₂ Member.Gives (members.filter policy.picks)
      (entries.filter fun entry => members.any fun member => member.label = entry.1 ∧
        policy entry.1 = some (member.type : Int)) := by
    have related := (List.forall₂_and_left members entries).mpr ⟨fun member mem => mem, gives⟩
    refine (List.rel_filter ?_ related).imp fun member entry both => both.2
    rintro member entry ⟨member_mem, gives_entry⟩
    exact (picked_iff member member_mem entry gives_entry.1).symm
  rw [Table.ofEntries_of_nodup distinct_names]
  refine parseTable_eq_ok_iff.mpr ⟨members, _, holds, picked_gives, ?_⟩
  rw [Table.ofEntries_of_nodup (distinct_names.sublist (List.filter_sublist.map Prod.fst))]

/-! ## What cannot be read -/

theorem readPart_fails_iff (policy : Policy) (table : Table) (part : Attribute) :
    (∃ fault, readPart (fun name type => policy name = some (type : Int)) table part =
      .error fault) ↔ IsFaulty policy part := by
  constructor
  · rintro ⟨fault, fails⟩
    rw [readPart, bind_eq_error] at fails
    rcases fails with unnamed | ⟨⟨name, value⟩, splits, fails⟩
    · rw [memberParts] at unnamed
      split at unnamed
      · exact .misnamed unnamed
      · rename_i plain
        exact .unnamed (by simpa using plain)
    · rw [memberParts] at splits
      split at splits
      · simp only at fails
        split at fails
        · rename_i picked
          rcases bind_eq_error.mp fails with invalid | ⟨decoded, -, done⟩
          · exact .invalid splits (by simpa using picked) invalid
          · cases done
        · cases fails
      · cases splits
  · intro faulty
    cases extended : part.extended with
    | false => exact ⟨.unnamed, by simp [readPart, memberParts, extended]⟩
    | true =>
        cases faulty with
        | unnamed plain =>
            rw [extended] at plain
            cases plain
        | @misnamed fault fails => exact ⟨fault, by simp [readPart, memberParts, extended, fails]⟩
        | @invalid name value fault splits picked fails =>
            exact ⟨fault, by simp [readPart, memberParts, extended, splits, picked, fails]⟩

theorem scan_fault_isSome_iff : (scan bytes).fault.isSome = true ↔ ¬∃ parts, Sequence bytes parts := by
  constructor
  · rintro is_some ⟨parts, sequence⟩
    rw [scan_eq_iff.mpr sequence] at is_some
    cases is_some
  · intro no_sequence
    by_contra no_fault
    refine no_sequence ⟨(scan bytes).attributes, scan_eq_iff.mp ?_⟩
    rw [← Option.isNone_iff_eq_none.mp (by simpa using no_fault)]

/-- A policy cannot read what is no sequence of attributes, or has one that it cannot read. -/
theorem parseTable_fails_iff :
    (∃ fault, parseTable policy bytes = .error fault) ↔
      (¬∃ parts, Sequence bytes parts) ∨
        ∃ parts, Sequence bytes parts ∧ ∃ part ∈ parts, IsFaulty policy part := by
  have stops := foldlM_fails_iff (readPart_fails_iff policy) (scan bytes).attributes ([] : Table)
  have collects : (∃ fault, parseTable policy bytes = .error fault) ↔
      (∃ part ∈ (scan bytes).attributes, IsFaulty policy part) ∨
        (scan bytes).fault.isSome = true := by
    rw [← stops, parseTable_eq]
    cases folded : (scan bytes).attributes.foldlM
        (readPart fun name type => policy name = some (type : Int)) ([] : Table) with
    | error fault => simp [collect, folded]
    | ok table => cases broken : (scan bytes).fault <;> simp [collect, folded, broken]
  rw [collects, or_comm, scan_fault_isSome_iff]
  refine or_congr_right' fun has_sequence => ?_
  rcases not_not.mp has_sequence with ⟨parts, sequence⟩
  have only : ∀ others, Sequence bytes others → others = parts := by
    intro others other_sequence
    have found := scan_eq_iff.mpr other_sequence
    rw [scan_eq_iff.mpr sequence] at found
    exact (congrArg Scan.attributes found).symm
  rw [scan_eq_iff.mpr sequence]
  constructor
  · exact fun faulty => ⟨parts, sequence, faulty⟩
  · rintro ⟨others, other_sequence, faulty⟩
    rwa [only others other_sequence] at faulty

/-- What can be read as a whole can be read by every policy. What a policy reads are the values of the
last members that it asks for, and no other values make a difference. Where no name occurs twice, these
are the entries of the whole table that the policy asks for. Reading by a policy fails just if there is
no sequence of attributes, or one of them has no name or a bad one, or is asked for and has a bad
value. -/
theorem parseTable_agrees (policy : Policy) (bytes : List UInt8) :
    (∀ decoded, decodeTable bytes = .ok decoded → ∃ parsed, parseTable policy bytes = .ok parsed) ∧
    (∀ parsed, parseTable policy bytes = .ok parsed →
      ∃ members, Members bytes members ∧ Picked policy members parsed ∧
        ∀ other others, Members other others → List.Forall₂ (Member.Alike policy) members others →
          parseTable policy other = .ok parsed) ∧
    (∀ decoded members, decodeTable bytes = .ok decoded → Members bytes members →
      (members.map Member.label).Nodup →
        parseTable policy bytes = .ok (decoded.filter fun entry => members.any fun member =>
          member.label = entry.1 ∧ policy entry.1 = some (member.type : Int))) ∧
    ((∃ fault, parseTable policy bytes = .error fault) ↔
      (¬∃ parts, Sequence bytes parts) ∨
        ∃ parts, Sequence bytes parts ∧ ∃ part ∈ parts, IsFaulty policy part) := by
  refine ⟨fun decoded => exists_parseTable, ?_, fun decoded members => parseTable_of_nodup,
    parseTable_fails_iff⟩
  intro parsed reads
  rcases parseTable_eq_ok_iff.mp reads with ⟨members, entries, holds, gives, rfl⟩
  refine ⟨members, holds, picked_ofEntries gives, ?_⟩
  intro other others holds_other alike
  rw [parseTable_congr holds holds_other alike, reads]

/-- Two members of one name, first a number and then a text. -/
def twoTypes : List UInt8 :=
  [135, 0, 0, 9, 0, 1, 97, 0, 1, 0, 0, 0, 131, 0, 0, 10, 0, 1, 97, 0, 120, 0]

/-- The policy that asks for the number. -/
def numberOnly : Policy := fun name => if name = "a" then some (Kind.int8.code : Int) else none

theorem parseTable_agrees_twoTypes :
    decodeTable twoTypes = .ok [("a", .text "x")] ∧
      ∃ parsed members, parseTable numberOnly twoTypes = .ok parsed ∧
        Members twoTypes members ∧ Picked numberOnly members parsed ∧
        parsed.get? "a" = some (.integer 1) := by
  have decodes : decodeTable twoTypes = .ok [("a", .text "x")] :=
    toOption_eq_some.mp (by decide +kernel)
  have parses : parseTable numberOnly twoTypes = .ok [("a", .integer 1)] :=
    toOption_eq_some.mp (by decide +kernel)
  have agrees := parseTable_agrees numberOnly twoTypes
  rcases agrees.1 _ decodes with ⟨parsed, is_parsed⟩
  rcases agrees.2.1 parsed is_parsed with ⟨members, holds, picked, -⟩
  rw [parses] at is_parsed
  cases is_parsed
  exact ⟨decodes, _, members, parses, holds, picked, rfl⟩

end LogRelay.Blob
