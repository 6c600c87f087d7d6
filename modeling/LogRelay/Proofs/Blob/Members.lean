import LogRelay.Proofs.Blob.Sequence
import LogRelay.Proofs.Blob.Tables
import LogRelay.Proofs.Fallible
import LogRelay.Proofs.Text.Utf8

/-!
# Members of tables

A member of a table is an attribute whose body begins with a name: its length in two bytes, its
bytes, a zero byte and filling up to a multiple of four. What follows is the value.

Both ways to read a table go through the members and set the values of those that are wanted; all of
them are in one case, those that a policy names in the other. The main statement says when reading
ends well and what table it makes, in terms of the members alone (`collect_readPart_eq_ok_iff`). Reading
meets faults of bytes only, never one of a value that a caller gave (`message?_of_collect_readPart`).
-/

namespace LogRelay.Blob

open LogRelay.Fallible

/-- A member of a table as it stands on the wire: the code of its type and the bytes of its name and
of its value. -/
structure Member where
  type : Nat
  name : List UInt8
  value : List UInt8

/-- The body begins with the name, and the value follows behind the filling. -/
def IsNamed (body name value : List UInt8) : Prop :=
  ∃ filling, name.length ≤ nameLimit ∧
    body = bigEndian 2 name.length ++ name ++ 0 :: filling ++ value ∧
    name.length + 3 + filling.length = padded (name.length + 3)

namespace Member

/-- The attribute holds the member. -/
def IsIn (member : Member) (part : Attribute) : Prop :=
  part.extended = true ∧ part.id = member.type ∧ IsNamed part.body member.name member.value

/-- The name of a member as a text. -/
def label (member : Member) : String :=
  Utf8.decodeLossy member.name

end Member

/-- The bytes are a sequence of attributes that hold the members. -/
def Members (bytes : List UInt8) (members : List Member) : Prop :=
  ∃ parts, Sequence bytes parts ∧ List.Forall₂ Member.IsIn members parts

/-! ## Names -/

theorem splitName_of_isNamed {body name value : List UInt8} (named : IsNamed body name value) :
    splitName body = .ok (Utf8.decodeLossy name, value) := by
  rcases named with ⟨filling, short, rfl, filled⟩
  have fits : name.length < Nat.pow 256 2 := Nat.lt_succ_of_le short
  have length := ofBigEndian_bigEndian fits
  generalize states : bigEndian 2 name.length = stated at length
  have size : stated.length = 2 := by rw [← states, length_bigEndian]
  have front : (stated ++ name ++ 0 :: filling ++ value).take 2 = stated := by
    rw [List.append_assoc, List.append_assoc, List.take_left' size]
  have behind : (stated ++ name ++ 0 :: filling ++ value).drop 2 =
      name ++ (0 :: filling ++ value) := by
    rw [List.append_assoc, List.append_assoc, List.drop_left' size]
  have zero : (stated ++ name ++ 0 :: filling ++ value)[2 + name.length]? = some 0 := by
    rw [List.append_assoc, List.getElem?_append_right (by simp [size])]
    simp [size]
  have value_eq : (stated ++ name ++ 0 :: filling ++ value).drop (padded (2 + name.length + 1)) =
      value := by
    refine List.drop_left' ?_
    simp only [List.length_append, List.length_cons, size]
    rw [show 2 + name.length + 1 = name.length + 3 by omega, ← filled]
    omega
  have enough : ¬(stated ++ name ++ 0 :: filling ++ value).length < 2 := by
    simp only [List.length_append, size]
    omega
  have whole : ¬(stated ++ name ++ 0 :: filling ++ value).length < padded (2 + name.length + 1) := by
    simp only [List.length_append, List.length_cons, size]
    rw [show 2 + name.length + 1 = name.length + 3 by omega, ← filled]
    omega
  rw [splitName, if_neg enough, front, length]
  simp only [if_neg whole, zero, behind, List.take_left, value_eq]
  rfl

/-- A body that is long enough for the name that it states, and has a zero byte behind it, is named. -/
theorem isNamed_of_zero {body : List UInt8} {length : Nat}
    (states : ofBigEndian (body.take 2) = length) (whole : padded (length + 3) ≤ body.length)
    (zero : body[length + 2]? = some 0) :
    IsNamed body ((body.drop 2).take length) (body.drop (padded (length + 3))) := by
  have above := le_padded (length + 3)
  have size : (body.take 2).length = 2 := by
    rw [List.length_take]
    omega
  have name_length : ((body.drop 2).take length).length = length := by
    rw [List.length_take, List.length_drop]
    omega
  have stated : bigEndian 2 length = body.take 2 := by
    have written := bigEndian_ofBigEndian (body.take 2)
    rwa [size, states] at written
  have short : length < Nat.pow 256 2 := by
    have bound := ofBigEndian_lt (body.take 2)
    rwa [size, states] at bound
  have at_zero : body.drop (2 + length) = 0 :: body.drop (length + 3) := by
    rcases List.getElem?_eq_some_iff.mp zero with ⟨inside, is_zero⟩
    rw [Nat.add_comm, List.drop_eq_getElem_cons inside, is_zero]
  have filling : body.drop (length + 3) =
      (body.drop (length + 3)).take (padded (length + 3) - (length + 3)) ++
        body.drop (padded (length + 3)) := by
    conv_lhs => rw [← List.take_append_drop (padded (length + 3) - (length + 3))
      (body.drop (length + 3))]
    rw [List.drop_drop, Nat.add_sub_cancel' above]
  refine ⟨(body.drop (length + 3)).take (padded (length + 3) - (length + 3)), ?_, ?_, ?_⟩
  · rw [name_length]
    exact Nat.le_of_lt_succ short
  · rw [name_length, stated, List.append_assoc, List.append_assoc, List.cons_append, ← filling,
      ← at_zero, ← List.drop_drop, List.take_append_drop, List.take_append_drop]
  · rw [name_length, List.length_take, List.length_drop]
    omega

/-- Splitting a body gives the text of its name, and the value behind it. -/
theorem splitName_eq_ok_iff {body value : List UInt8} {text : String} :
    splitName body = .ok (text, value) ↔
      ∃ name, IsNamed body name value ∧ text = Utf8.decodeLossy name := by
  constructor
  · intro splits
    rw [splitName] at splits
    split at splits
    · cases splits
    · simp only at splits
      generalize states : ofBigEndian (body.take 2) = length at splits
      split at splits
      · cases splits
      · rename_i whole
        rw [Nat.not_lt, show 2 + length + 1 = length + 3 by omega] at whole
        rw [show 2 + length + 1 = length + 3 by omega, Nat.add_comm 2 length] at splits
        split at splits
        · cases splits
        · rename_i last is_last
          split at splits
          · cases splits
          · rename_i zero
            cases splits
            rw [Classical.not_not.mp zero] at is_last
            exact ⟨_, isNamed_of_zero states whole is_last, rfl⟩
  · rintro ⟨name, named, rfl⟩
    exact splitName_of_isNamed named

/-- The body of an attribute that is written with a name. -/
theorem isNamed_nameHeader {name : List UInt8} (short : name.length ≤ nameLimit)
    (value : List UInt8) : IsNamed (nameHeader name ++ value) name value := by
  have above := le_padded (name.length + 3)
  have length : (bigEndian 2 name.length ++ name ++ [0]).length = name.length + 3 := by
    simp only [List.length_append, length_bigEndian, List.length_singleton]
    omega
  refine ⟨List.replicate (padded (name.length + 3) - (name.length + 3)) 0, short, ?_, ?_⟩
  · rw [nameHeader, fill, length]
    simp
  · rw [List.length_replicate]
    omega

theorem memberParts_eq_ok_iff {part : Attribute} {text : String} {value : List UInt8} :
    memberParts part = .ok (text, value) ↔
      ∃ member : Member, member.IsIn part ∧ text = member.label ∧ value = member.value := by
  rw [memberParts]
  cases extended : part.extended with
  | false => simp [Member.IsIn, extended]
  | true =>
      rw [if_pos rfl, splitName_eq_ok_iff]
      constructor
      · rintro ⟨name, named, rfl⟩
        exact ⟨⟨part.id, name, value⟩, ⟨extended, rfl, named⟩, rfl, rfl⟩
      · rintro ⟨member, ⟨-, -, named⟩, rfl, rfl⟩
        exact ⟨member.name, named, rfl⟩

/-- A body has one name and one value. -/
theorem IsNamed.unique {body name value other rest : List UInt8} (named : IsNamed body name value)
    (also : IsNamed body other rest) : name = other ∧ value = rest := by
  have front : ∀ {name value : List UInt8}, IsNamed body name value →
      ofBigEndian (body.take 2) = name.length ∧ (body.drop 2).take name.length = name := by
    rintro name value ⟨filling, short, rfl, -⟩
    rw [List.append_assoc, List.append_assoc, List.take_left' (length_bigEndian ..),
      List.drop_left' (length_bigEndian ..), List.take_left]
    exact ⟨ofBigEndian_bigEndian (Nat.lt_succ_of_le short), rfl⟩
  have same_length : name.length = other.length := (front named).1.symm.trans (front also).1
  have same : name = other := by rw [← (front named).2, ← (front also).2, same_length]
  refine ⟨same, ?_⟩
  have split := splitName_of_isNamed named
  rw [splitName_of_isNamed also] at split
  exact (congrArg Prod.snd (Except.ok.inj split)).symm

theorem Member.IsIn.unique {member other : Member} {part : Attribute} (holds : member.IsIn part)
    (also : other.IsIn part) : member = other := by
  rcases member with ⟨type, name, value⟩
  rcases other with ⟨type', name', value'⟩
  rcases holds with ⟨-, rfl, named⟩
  rcases also with ⟨-, same_type, named'⟩
  rcases named.unique named' with ⟨rfl, rfl⟩
  cases same_type
  rfl

/-- The members in a byte sequence are determined by it. -/
theorem Members.unique {bytes : List UInt8} {members others : List Member}
    (holds : Members bytes members) (also : Members bytes others) : members = others := by
  rcases holds with ⟨parts, sequence, are_in⟩
  rcases also with ⟨parts', sequence', are_in'⟩
  have same_parts : parts = parts' := by
    have found := scan_eq_iff.mpr sequence
    rw [scan_eq_iff.mpr sequence'] at found
    exact (congrArg Scan.attributes found).symm
  subst same_parts
  have left_unique : Relator.LeftUnique Member.IsIn := fun _ _ _ holds also => holds.unique also
  exact List.left_unique_forall₂' left_unique are_in are_in'

/-! ## Reading -/

/-- Sets the value of a member in a table, if the name and the type of the member are wanted. -/
def readPart (wanted : String → Nat → Bool) (table : Table) (part : Attribute) :
    Except Fault Table := do
  let (name, value) ← memberParts part
  if wanted name part.id then
    let decoded ← decodeValue part.id value
    pure (table.set name decoded)
  else pure table

theorem decodeTable_eq (bytes : List UInt8) :
    decodeTable bytes = collect (readPart fun _ _ => true) (scan bytes) := rfl

theorem parseTable_eq (policy : Policy) (bytes : List UInt8) :
    parseTable policy bytes =
      collect (readPart fun name type => policy name = some (type : Int)) (scan bytes) := by
  rw [parseTable]
  congr 1
  funext table part
  simp only [readPart, decide_eq_true_eq]

namespace Member

variable (wanted : String → Nat → Bool)

/-- The name and the type of the member are wanted. -/
def isWanted (member : Member) : Bool :=
  wanted member.label member.type

/-- The entry has the name of the member and the value that its bytes stand for. -/
def Gives (member : Member) (entry : String × Value) : Prop :=
  entry.1 = member.label ∧ decodeValue member.type member.value = .ok entry.2

end Member

variable {wanted : String → Nat → Bool}

/-- Reading one part needs a member in it, and the value of the member if that is wanted. -/
theorem readPart_eq_ok_iff {start table : Table} {part : Attribute} :
    readPart wanted start part = .ok table ↔
      ∃ member : Member, member.IsIn part ∧
        if member.isWanted wanted then
          ∃ value, decodeValue member.type member.value = .ok value ∧
            table = start.set member.label value
        else table = start := by
  simp only [readPart, bind_eq_ok, Prod.exists, memberParts_eq_ok_iff]
  constructor
  · rintro ⟨-, -, ⟨member, is_in, rfl, rfl⟩, reads⟩
    refine ⟨member, is_in, ?_⟩
    rw [is_in.2.1] at reads
    rw [Member.isWanted]
    split at reads
    · rename_i is_wanted
      rw [if_pos is_wanted]
      simp only [bind_eq_ok, pure_eq_ok, Except.ok.injEq] at reads
      rcases reads with ⟨value, decoded, rfl⟩
      exact ⟨value, decoded, rfl⟩
    · rename_i unwanted
      rw [if_neg unwanted]
      exact (Except.ok.inj reads).symm
  · rintro ⟨member, is_in, reads⟩
    refine ⟨_, _, ⟨member, is_in, rfl, rfl⟩, ?_⟩
    rw [is_in.2.1]
    rw [Member.isWanted] at reads
    split at reads
    · rename_i is_wanted
      rcases reads with ⟨value, decoded, rfl⟩
      rw [if_pos is_wanted, decoded, ok_bind, pure_eq_ok]
    · rename_i unwanted
      rw [if_neg unwanted, reads, pure_eq_ok]

theorem foldlM_readPart_eq_ok_iff {start table : Table} {parts : List Attribute} :
    parts.foldlM (readPart wanted) start = .ok table ↔
      ∃ members entries, List.Forall₂ Member.IsIn members parts ∧
        List.Forall₂ Member.Gives (members.filter (·.isWanted wanted)) entries ∧
        table = entries.foldl (fun table entry => table.set entry.1 entry.2) start := by
  -- Every attribute has a member, but one that is not wanted adds no entry.
  induction parts generalizing start with
  | nil =>
      constructor
      · intro reads
        cases reads
        exact ⟨[], [], .nil, .nil, rfl⟩
      · rintro ⟨members, entries, are_in, gives, rfl⟩
        cases are_in
        cases gives
        rfl
  | cons part parts ih =>
      simp only [List.foldlM_cons, bind_eq_ok, readPart_eq_ok_iff, ih]
      constructor
      · rintro ⟨next, ⟨member, is_in, reads⟩, members, entries, are_in, gives, rfl⟩
        cases is_wanted : member.isWanted wanted with
        | true =>
            rw [if_pos is_wanted] at reads
            rcases reads with ⟨value, decoded, rfl⟩
            refine ⟨member :: members, (member.label, value) :: entries, .cons is_in are_in, ?_, rfl⟩
            rw [List.filter_cons_of_pos is_wanted]
            exact .cons ⟨rfl, decoded⟩ gives
        | false =>
            rw [if_neg (by simp [is_wanted])] at reads
            refine ⟨member :: members, entries, .cons is_in are_in, ?_, by rw [reads]⟩
            rw [List.filter_cons_of_neg (by simp [is_wanted])]
            exact gives
      · rintro ⟨members, entries, are_in, gives, rfl⟩
        rcases are_in with _ | @⟨member, _, members, _, is_in, are_in⟩
        cases is_wanted : member.isWanted wanted with
        | true =>
            rw [List.filter_cons_of_pos is_wanted] at gives
            rcases gives with _ | @⟨_, entry, _, entries, ⟨label, decoded⟩, gives⟩
            refine ⟨_, ⟨member, is_in, ?_⟩, members, entries, are_in, gives, rfl⟩
            rw [if_pos is_wanted]
            exact ⟨entry.2, decoded, by rw [← label]⟩
        | false =>
            rw [List.filter_cons_of_neg (by simp [is_wanted])] at gives
            refine ⟨start, ⟨member, is_in, ?_⟩, members, entries, are_in, gives, rfl⟩
            rw [if_neg (by simp [is_wanted])]

theorem collect_eq_ok_iff {add : Table → Attribute → Except Fault Table} {found : Scan}
    {table : Table} :
    collect add found = .ok table ↔
      found.fault = none ∧ found.attributes.foldlM add [] = .ok table := by
  rw [collect, bind_eq_ok]
  cases found.fault with
  | none => simp
  | some fault => simp

/-- Reading ends well if and only if the bytes hold members and the values of the wanted ones can be
read, and then the table is made by these values. -/
theorem collect_readPart_eq_ok_iff {bytes : List UInt8} {table : Table} :
    collect (readPart wanted) (scan bytes) = .ok table ↔
      ∃ members entries, Members bytes members ∧
        List.Forall₂ Member.Gives (members.filter (·.isWanted wanted)) entries ∧
        table = Table.ofEntries entries := by
  rw [collect_eq_ok_iff, foldlM_readPart_eq_ok_iff]
  constructor
  · rintro ⟨faultless, members, entries, are_in, gives, made⟩
    refine ⟨members, entries, ⟨(scan bytes).attributes, ?_, are_in⟩, gives, made⟩
    rw [← scan_eq_iff, ← faultless]
  · rintro ⟨members, entries, ⟨parts, sequence, are_in⟩, gives, made⟩
    rw [scan_eq_iff.mpr sequence]
    exact ⟨rfl, members, entries, are_in, gives, made⟩

/-- Entries for members exist if and only if the bytes of each can be read. -/
theorem exists_gives_iff {members : List Member} :
    (∃ entries, List.Forall₂ Member.Gives members entries) ↔
      ∀ member ∈ members, ∃ value, decodeValue member.type member.value = .ok value := by
  induction members with
  | nil => exact ⟨fun _ => by simp, fun _ => ⟨[], .nil⟩⟩
  | cons member members ih =>
      rw [List.forall_mem_cons, ← ih]
      constructor
      · rintro ⟨_, _ | ⟨gives, later⟩⟩
        exact ⟨⟨_, gives.2⟩, _, later⟩
      · rintro ⟨⟨value, decoded⟩, entries, later⟩
        exact ⟨(member.label, value) :: entries, .cons ⟨rfl, decoded⟩ later⟩

theorem rel_getLast? {Left Right : Type} {relation : Left → Right → Prop} {left : List Left}
    {right : List Right} (related : List.Forall₂ relation left right) :
    Option.Rel relation left.getLast? right.getLast? := by
  induction related with
  | nil => exact .none
  | @cons first other left right here later ih =>
      rw [List.getLast?_cons, List.getLast?_cons]
      generalize left.getLast? = last at ih ⊢
      generalize right.getLast? = other_last at ih ⊢
      cases ih with
      | none => exact .some here
      | some there => exact .some there

/-- The value of a name is the one that the last member of this name stands for. -/
theorem lastValue?_eq_some_iff {members : List Member} {entries : List (String × Value)}
    (gives : List.Forall₂ Member.Gives members entries) {name : String} {value : Value} :
    Table.lastValue? entries name = some value ↔
      ∃ member, (members.filter (·.label = name)).getLast? = some member ∧
        decodeValue member.type member.value = .ok value := by
  have named : List.Forall₂ Member.Gives (members.filter (·.label = name))
      (entries.filter (·.1 = name)) := by
    refine List.rel_filter ?_ gives
    intro member entry gives_entry
    simp [gives_entry.1]
  have last := rel_getLast? named
  rw [Table.lastValue?]
  generalize (members.filter (·.label = name)).getLast? = member? at last ⊢
  generalize (entries.filter (·.1 = name)).getLast? = entry? at last ⊢
  cases last with
  | none => simp
  | some gives_last => simp [gives_last.2]

/-! ## Faults -/

theorem message?_of_scanFrom {offset : Nat} {bytes : List UInt8} {fault : Fault}
    (met : (scanFrom offset bytes).fault = some fault) : fault.message? ≠ none := by
  fun_induction scanFrom offset bytes with
  | case1 offset bytes short => cases met
  | case2 offset bytes enough header misfit =>
      cases met
      simp [Fault.message?]
  | case3 offset bytes enough header fits =>
      rename_i ih
      exact ih met

/-- No byte is asked for behind the end of a body: one that is long enough for a padded name is long
enough for the byte behind the name. -/
theorem fault_of_splitName {body : List UInt8} {fault : Fault} (fails : splitName body = .error fault) :
    fault = .shortName ∨ fault = .badName := by
  rw [splitName] at fails
  split at fails
  · cases fails
    exact .inl rfl
  · simp only at fails
    split at fails
    · cases fails
      exact .inr rfl
    · rename_i whole
      split at fails
      · rename_i outside
        have above := le_padded (2 + ofBigEndian (body.take 2) + 1)
        have behind := List.getElem?_eq_none_iff.mp outside
        omega
      · split at fails
        · cases fails
          exact .inr rfl
        · cases fails

theorem message?_of_memberParts {part : Attribute} {fault : Fault}
    (met : memberParts part = .error fault) : fault.message? ≠ none := by
  rw [memberParts] at met
  split at met
  · rcases fault_of_splitName met with rfl | rfl <;> simp [Fault.message?]
  · cases met
    simp [Fault.message?]

theorem message?_of_decodeValue {type : Int} {bytes : List UInt8} {fault : Fault}
    (met : decodeValue type bytes = .error fault) : fault.message? ≠ none := by
  rw [decodeValue] at met
  split at met
  · split at met
    · cases met
    · cases met
      simp [Fault.message?]
  · split at met
    · split at met
      · cases met
        simp [Fault.message?]
      · split at met <;> cases met
    · cases met
      simp [Fault.message?]
  · cases met
    simp [Fault.message?]

/-- Every fault that reading meets is one of the bytes, and has a message. -/
theorem message?_of_collect_readPart {bytes : List UInt8} {fault : Fault}
    (met : collect (readPart wanted) (scan bytes) = .error fault) : fault.message? ≠ none := by
  rw [collect, bind_eq_error] at met
  rcases met with fails | ⟨table, -, ends⟩
  · rcases exists_of_foldlM_eq_error fails with ⟨reached, part, -, faulty⟩
    rw [readPart, bind_eq_error] at faulty
    rcases faulty with unnamed | ⟨⟨name, value⟩, -, unread⟩
    · exact message?_of_memberParts unnamed
    · simp only at unread
      split at unread
      · rw [bind_eq_error] at unread
        rcases unread with undecoded | ⟨decoded, -, done⟩
        · exact message?_of_decodeValue undecoded
        · cases done
      · cases unread
  · cases broken : (scan bytes).fault with
    | none =>
        rw [broken] at ends
        cases ends
    | some other =>
        rw [broken] at ends
        cases ends
        exact message?_of_scanFrom broken

end LogRelay.Blob
