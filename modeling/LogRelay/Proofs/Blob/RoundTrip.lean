import LogRelay.Proofs.Blob.Members
import LogRelay.Proofs.Blob.Values

/-!
# Tables that are written and read back

Items whose values their types can hold are written as the members of a table, unless one of them is
longer than a header can say. Reading gives each name the value of its last item, at the place of its
first (`decodeTable_encodeTable`). A frame is a table behind one more header, and every table takes a
multiple of four bytes, so the frame has no padding and states its full length.
-/

namespace LogRelay.Blob

open LogRelay.Fallible

namespace Item

/-- The name has a length that can be stated, and the type can hold the value. -/
def Storable (item : Item) : Prop :=
  (Utf8.encode item.name).length ≤ nameLimit ∧ Blob.Storable item.type item.value

/-- The length that the header of the item states. -/
def size (item : Item) : Nat :=
  headerSize + padded ((Utf8.encode item.name).length + 3) + payloadSize item.type item.value

/-- The member has the name and the type of the item, and its bytes stand for the value. -/
def IsStoredIn (item : Item) (member : Member) : Prop :=
  member.name = Utf8.encode item.name ∧ (member.type : Int) = item.type ∧
    decodeValue member.type member.value = .ok item.value.readBack

/-- The entry of the item in a table that is read. -/
def entry (item : Item) : String × Value :=
  (item.name, item.value.readBack)

end Item

/-- The number of bytes of a table. -/
def tableSize : List Item → Nat
  | [] => 0
  | item :: items => padded item.size + tableSize items

/-- The table has the names of the items in the order in which they first occurred, each with the
value of its last item. -/
structure Latest (items : List Item) (table : Table) : Prop where
  names : table.map Prod.fst = (items.map Item.name).eraseDups
  values : ∀ name, table.get? name =
    (items.filter (·.name = name)).getLast?.map (·.value.readBack)

/-! ## Items -/

theorem length_nameHeader (name : List UInt8) :
    (nameHeader name).length = padded (name.length + 3) := by
  have above := le_padded (name.length + 3)
  rw [nameHeader, fill]
  simp only [List.length_append, length_bigEndian, List.length_singleton, List.length_replicate]
  omega

theorem Storable.exists_kind {type : Int} {value : Value} (storable : Storable type value) :
    ∃ kind : Kind, type = kind.code := by
  cases storable with
  | text content => exact ⟨_, rfl⟩
  | integer => exact ⟨_, rfl⟩
  | double number => exact ⟨_, rfl⟩

theorem Kind.code_lt (kind : Kind) : kind.code < 128 := by
  cases kind <;> decide

/-- A storable item is written unless it is too long, and what is written is its member. -/
theorem encodeItem_cases {item : Item} (storable : item.Storable) :
    (encodeItem item = .error (.oversized item.size) ∧ lengthLimit < item.size) ∨
      ∃ written padding part member, encodeItem item = .ok (written ++ padding) ∧
        IsWritten written part ∧ written.length = item.size ∧
        written.length + padding.length = padded written.length ∧
        member.IsIn part ∧ item.IsStoredIn member := by
  rcases storable with ⟨short, can_hold⟩
  rcases can_hold.exists_kind with ⟨kind, type_eq⟩
  rcases exists_encodeValue can_hold with ⟨payload, encoded, length, decoded⟩
  have has_body : bodyOf (some item.name) payload =
      .ok (nameHeader (Utf8.encode item.name) ++ payload) := by
    rw [bodyOf]
    exact if_pos short
  have size_eq : headerSize + (nameHeader (Utf8.encode item.name) ++ payload).length =
      item.size := by
    rw [List.length_append, length_nameHeader, length, Item.size, Nat.add_assoc]
  have writes : encodeItem item = encodeAttribute item.type payload (some item.name) := by
    rw [encodeItem, encoded, ok_bind]
  cases attempt : encodeItem item with
  | error fault =>
      left
      rw [writes, encodeAttribute_eq _ has_body, size_eq] at attempt
      split at attempt
      · rename_i long
        cases attempt
        exact ⟨rfl, long⟩
      · cases attempt
  | ok bytes =>
      right
      rw [writes] at attempt
      rcases exists_isWritten _ has_body attempt with
        ⟨written, padding, rfl, is_written, aligned, -⟩
      have code_eq : (item.type % 128).toNat = kind.code := by
        have small := kind.code_lt
        omega
      rw [code_eq] at is_written
      refine ⟨written, padding, _, ⟨kind.code, Utf8.encode item.name, payload⟩, rfl, is_written, ?_,
        aligned, ⟨rfl, rfl, isNamed_nameHeader short payload⟩, rfl, type_eq.symm, ?_⟩
      · rw [is_written.length, size_eq]
      · rw [← type_eq]
        exact decoded

/-! ## Tables -/

variable {items : List Item}

theorem encodeTable_eq_ok_iff {bytes : List UInt8} :
    encodeTable items = .ok bytes ↔
      ∃ members, List.Forall₂ (fun item member => encodeItem item = .ok member) items members ∧
        members.flatten = bytes := by
  simp only [encodeTable, bind_eq_ok, mapM_eq_ok_iff, pure_eq_ok, Except.ok.injEq]

/-- A table that is written holds its items, in their order. -/
theorem exists_members_of_encodeTable (storable : ∀ item ∈ items, item.Storable)
    {bytes : List UInt8} (encoded : encodeTable items = .ok bytes) :
    bytes.length = tableSize items ∧
      ∃ members, Members bytes members ∧ List.Forall₂ Item.IsStoredIn items members := by
  rcases encodeTable_eq_ok_iff.mp encoded with ⟨encodings, are_encoded, rfl⟩
  -- The bytes of the whole table have done their part, and would get in the way of the induction.
  clear encoded
  induction are_encoded with
  | nil => exact ⟨rfl, [], ⟨[], .rest (by decide), .nil⟩, .nil⟩
  | @cons item encoding items encodings is_encoded are_encoded ih =>
      rcases ih fun other other_mem => storable other (List.mem_cons_of_mem _ other_mem) with
        ⟨length, members, ⟨parts, sequence, are_in⟩, are_stored⟩
      rcases encodeItem_cases (storable item (by simp)) with
        ⟨fails, -⟩ | ⟨written, padding, part, member, written_eq, is_written, size, aligned, is_in,
          is_stored⟩
      · rw [is_encoded] at fails
        cases fails
      · rw [is_encoded] at written_eq
        cases written_eq
        refine ⟨?_, member :: members, ⟨part :: parts, ?_, .cons is_in are_in⟩,
          .cons is_stored are_stored⟩
        · rw [List.flatten_cons, List.length_append, List.length_append, aligned, length, size]
          rfl
        · rw [List.flatten_cons]
          exact .cons is_written aligned sequence

/-- A table that is not written has an item that is too long. -/
theorem exists_oversized_of_encodeTable (storable : ∀ item ∈ items, item.Storable) {fault : Fault}
    (fails : encodeTable items = .error fault) :
    ∃ item ∈ items, fault = .oversized item.size ∧ lengthLimit < item.size := by
  rw [encodeTable, bind_eq_error] at fails
  rcases fails with fails | ⟨members, -, ends⟩
  · rcases exists_of_mapM_eq_error fails with ⟨item, item_mem, unwritten⟩
    rcases encodeItem_cases (storable item item_mem) with
      ⟨too_long, long⟩ | ⟨written, padding, part, member, written_eq, -⟩
    · rw [unwritten] at too_long
      cases too_long
      exact ⟨item, item_mem, rfl, long⟩
    · rw [unwritten] at written_eq
      cases written_eq
  · cases ends

/-- Where all items are wanted, reading what holds them makes the table of their entries. -/
theorem collect_readPart_of_stored {wanted : String → Nat → Bool}
    (all_wanted : ∀ item ∈ items, ∀ type : Nat, (type : Int) = item.type →
      wanted item.name type = true)
    {bytes : List UInt8} {members : List Member} (holds : Members bytes members)
    (are_stored : List.Forall₂ Item.IsStoredIn items members) :
    collect (readPart wanted) (scan bytes) = .ok (Table.ofEntries (items.map Item.entry)) := by
  have label : ∀ {item : Item} {member : Member}, item.IsStoredIn member →
      member.label = item.name := by
    intro item member is_stored
    rw [Member.label, is_stored.1, Utf8.decodeLossy_encode]
  have no_other : members.filter (·.isWanted wanted) = members := by
    clear holds
    induction are_stored with
    | nil => rfl
    | @cons item member items members is_stored are_stored ih =>
        have is_wanted : member.isWanted wanted = true := by
          rw [Member.isWanted, label is_stored]
          exact all_wanted item (by simp) _ is_stored.2.1
        rw [List.filter_cons_of_pos is_wanted,
          ih fun other other_mem => all_wanted other (List.mem_cons_of_mem _ other_mem)]
  rw [collect_readPart_eq_ok_iff]
  refine ⟨members, items.map Item.entry, holds, ?_, rfl⟩
  rw [no_other, List.forall₂_map_right_iff]
  refine are_stored.flip.imp ?_
  intro member item is_stored
  exact ⟨(label is_stored).symm, is_stored.2.2⟩

/-- A table that was written is read as the table of the entries of its items. -/
theorem decodeTable_of_encodeTable (storable : ∀ item ∈ items, item.Storable) {bytes : List UInt8}
    (encoded : encodeTable items = .ok bytes) :
    decodeTable bytes = .ok (Table.ofEntries (items.map Item.entry)) := by
  rcases exists_members_of_encodeTable storable encoded with ⟨-, members, holds, are_stored⟩
  rw [decodeTable_eq]
  exact collect_readPart_of_stored (fun _ _ _ _ => rfl) holds are_stored

theorem latest_ofEntries (items : List Item) :
    Latest items (Table.ofEntries (items.map Item.entry)) := by
  refine ⟨?_, fun name => ?_⟩
  · rw [Table.names_ofEntries, List.map_map]
    rfl
  · rw [Table.get?_ofEntries, Table.lastValue?, List.filter_map, List.getLast?_map, Option.map_map]
    rfl

/-! ## Frames -/

theorem tableSize_mod (items : List Item) : tableSize items % 4 = 0 := by
  induction items with
  | nil => rfl
  | cons item items ih =>
      have aligned := padded_mod item.size
      rw [tableSize]
      omega

theorem size_le_tableSize {item : Item} (item_mem : item ∈ items) : item.size ≤ tableSize items := by
  induction items with
  | nil => cases item_mem
  | cons first items ih =>
      rw [tableSize]
      rcases List.mem_cons.mp item_mem with rfl | later
      · have above := le_padded item.size
        omega
      · have below := ih later
        omega

/-- A frame is a header that states its length, and a table. -/
theorem encodeFrame_eq_ok (storable : ∀ item ∈ items, item.Storable) {bytes : List UInt8}
    (encoded : encodeFrame items = .ok bytes) :
    ∃ header table, bytes = header ++ table ∧ encodeTable items = .ok table ∧
      Header.decode header = .ok ⟨bytes.length, 0, false⟩ := by
  rw [encodeFrame, bind_eq_ok] at encoded
  rcases encoded with ⟨table, is_table, framed⟩
  have has_body : bodyOf none table = .ok table := rfl
  rcases exists_isWritten _ has_body framed with ⟨written, padding, rfl, is_written, aligned, -⟩
  have length := is_written.length
  have size := (exists_members_of_encodeTable storable is_table).1
  have whole := tableSize_mod items
  simp only [headerSize] at length
  rw [padded_eq_self (by omega)] at aligned
  have no_padding : padding = [] := List.length_eq_zero_iff.mp (by omega)
  rcases is_written with ⟨header, rfl, decoded⟩
  subst no_padding
  rw [List.append_nil]
  exact ⟨header, table, rfl, is_table, decoded⟩

/-- A frame that is not written has an item that is too long, or is too long as a whole. -/
theorem oversized_of_encodeFrame (storable : ∀ item ∈ items, item.Storable) {fault : Fault}
    (fails : encodeFrame items = .error fault) :
    (∃ item ∈ items, fault = .oversized item.size ∧ lengthLimit < item.size) ∨
      fault = .oversized (headerSize + tableSize items) ∧
        lengthLimit < headerSize + tableSize items := by
  rw [encodeFrame, bind_eq_error] at fails
  rcases fails with fails | ⟨table, is_table, unframed⟩
  · exact Or.inl (exists_oversized_of_encodeTable storable fails)
  · right
    have has_body : bodyOf none table = .ok table := rfl
    rw [encodeAttribute_eq _ has_body, (exists_members_of_encodeTable storable is_table).1]
      at unframed
    split at unframed
    · rename_i long
      cases unframed
      exact ⟨rfl, long⟩
    · cases unframed

/-- Tables and frames are read back as they were written: each name has the value of its last item,
with texts up to their first U+0000, and names stand where they first occurred. Writing fails only
where an item, or the frame, is longer than a header can say. The header of a frame states the full
length of the frame. -/
theorem decodeTable_encodeTable (items : List Item) (storable : ∀ item ∈ items, item.Storable) :
    (∀ bytes, encodeTable items = .ok bytes →
      ∃ table, decodeTable bytes = .ok table ∧ Latest items table) ∧
    (∀ fault, encodeTable items = .error fault →
      ∃ item ∈ items, fault = .oversized item.size ∧ lengthLimit < item.size) ∧
    (∀ bytes, encodeFrame items = .ok bytes →
      Header.decode (bytes.take headerSize) = .ok ⟨bytes.length, 0, false⟩ ∧
      ∃ table, decodeTable (bytes.drop headerSize) = .ok table ∧ Latest items table) ∧
    (∀ fault, encodeFrame items = .error fault →
      (∃ item ∈ items, fault = .oversized item.size ∧ lengthLimit < item.size) ∨
        fault = .oversized (headerSize + tableSize items) ∧
          lengthLimit < headerSize + tableSize items) := by
  have reads : ∀ bytes, encodeTable items = .ok bytes →
      ∃ table, decodeTable bytes = .ok table ∧ Latest items table := by
    intro bytes encoded
    rcases exists_members_of_encodeTable storable encoded with ⟨-, members, holds, are_stored⟩
    refine ⟨_, ?_, latest_ofEntries items⟩
    rw [decodeTable_eq]
    exact collect_readPart_of_stored (fun _ _ _ _ => rfl) holds are_stored
  refine ⟨reads, fun fault => exists_oversized_of_encodeTable storable, ?_,
    fun fault => oversized_of_encodeFrame storable⟩
  intro bytes encoded
  rcases encodeFrame_eq_ok storable encoded with ⟨header, table, rfl, is_table, decoded⟩
  have size := Header.length_of_decode_eq_ok decoded
  rw [List.take_left' size, List.drop_left' size]
  exact ⟨decoded, reads table is_table⟩

/-- Three members, two of one name and of different types. The other name is a zero byte. -/
def sharedName : List Item :=
  [⟨"a", Kind.string.code, .text "x\x00y"⟩, ⟨"\x00", Kind.int8.code, .integer 255⟩,
    ⟨"a", Kind.double.code, .double (.infinity true)⟩]

theorem decodeTable_encodeTable_sharedName :
    (∀ item ∈ sharedName, item.Storable) ∧
      ∃ bytes table, encodeFrame sharedName = .ok bytes ∧
        decodeTable (bytes.drop headerSize) = .ok table ∧
        table.map Prod.fst = ["a", "\x00"] ∧
        table.get? "a" = some (.double (.infinity true)) ∧
        table.get? "\x00" = some (.integer 255) := by
  have storable : ∀ item ∈ sharedName, item.Storable := by
    simp only [sharedName, List.forall_mem_cons, List.not_mem_nil, false_implies, implies_true,
      and_true]
    exact ⟨⟨by decide, .text _⟩, ⟨by decide, .integer (show Kind.int8.width? = some 1 from rfl)
      (by decide) (by decide) (by decide)⟩, ⟨by decide, .double _⟩⟩
  have round_trip := decodeTable_encodeTable sharedName storable
  refine ⟨storable, ?_⟩
  cases encoded : encodeFrame sharedName with
  | error fault =>
      rcases round_trip.2.2.2 fault encoded with ⟨item, item_mem, -, long⟩ | ⟨-, long⟩
      · have short : ∀ item ∈ sharedName, item.size ≤ lengthLimit := by decide
        have := short item item_mem
        omega
      · have short : headerSize + tableSize sharedName ≤ lengthLimit := by decide
        omega
  | ok bytes =>
      rcases (round_trip.2.2.1 bytes encoded).2 with ⟨table, decoded, latest⟩
      exact ⟨bytes, table, rfl, decoded, latest.names, latest.values "a", latest.values "\x00"⟩

end LogRelay.Blob
