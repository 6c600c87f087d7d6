import LogRelay.Proofs.Blob.Members

/-!
# Sequences that are cut off

Attributes are written one behind the other, and only so many of the bytes are there. Those whose
stated length lies within them are found, each as it was written, and none of the others. Then less
than a header is left, or the length that the next header states is refused (`scan_take`). Padding is
nobody's: it may be cut off without being missed.
-/

namespace LogRelay.Blob

open LogRelay.Fallible

/-- An attribute to write. -/
structure Draft where
  id : Fin 128
  payload : List UInt8
  name : Option String

namespace Draft

/-- The bytes of the attribute. -/
def encode (draft : Draft) : Except Fault (List UInt8) :=
  encodeAttribute (draft.id : Nat) draft.payload draft.name

/-- The attribute that is found has the identifier of the one that was written, is extended just if
that has a name, and its body holds the payload, behind the name if there is one. -/
def IsReadAs (draft : Draft) (part : Attribute) : Prop :=
  part.id = draft.id ∧ part.extended = draft.name.isSome ∧
    match draft.name with
    | none => part.body = draft.payload
    | some name => splitName part.body = .ok (name, draft.payload)

end Draft

/-- The length that the header in front of some bytes states. -/
def statedLength (encoding : List UInt8) : Nat :=
  (Header.ofWord (ofBigEndian (encoding.take headerSize))).length

/-- The number of bytes in front of the encoding at a place. -/
def startOf (encodings : List (List UInt8)) (place : Nat) : Nat :=
  (encodings.take place).flatten.length

@[simp]
theorem startOf_zero (encodings : List (List UInt8)) : startOf encodings 0 = 0 := rfl

theorem startOf_succ (encoding : List UInt8) (encodings : List (List UInt8)) (place : Nat) :
    startOf (encoding :: encodings) (place + 1) = encoding.length + startOf encodings place := by
  simp [startOf]

/-! ## One attribute -/

theorem IsWritten.statedLength {written : List UInt8} {part : Attribute}
    (is_written : IsWritten written part) (more : List UInt8) :
    statedLength (written ++ more) = written.length := by
  rcases is_written with ⟨header, cut, decoded⟩
  have size := Header.length_of_decode_eq_ok decoded
  rw [Header.decode, if_pos size] at decoded
  rw [Blob.statedLength, cut, List.append_assoc, List.take_left' size, Except.ok.inj decoded, cut]

namespace Draft

/-- What an attribute that is written is read as, and what its header states. -/
structure IsEncodedAs (draft : Draft) (encoding written : List UInt8) (part : Attribute) : Prop where
  is_written : IsWritten written part
  is_read : draft.IsReadAs part
  /-- Nothing follows but the padding. -/
  cut : ∃ padding, encoding = written ++ padding
  aligned : encoding.length = padded written.length
  states : statedLength encoding = written.length
  enough : headerSize ≤ written.length

theorem exists_isEncodedAs {draft : Draft} {encoding : List UInt8}
    (encoded : draft.encode = .ok encoding) :
    ∃ written part, draft.IsEncodedAs encoding written part := by
  rcases draft with ⟨id, payload, name⟩
  have has_body : ∃ body, bodyOf name payload = .ok body := by
    rcases bind_eq_ok.mp encoded with ⟨body, has_body, -⟩
    exact ⟨body, has_body⟩
  rcases has_body with ⟨body, has_body⟩
  rcases exists_isWritten _ has_body encoded with ⟨written, padding, rfl, is_written, aligned, -⟩
  have same_id : (((id : Nat) : Int) % 128).toNat = id := by
    have small := id.isLt
    omega
  rw [same_id] at is_written
  refine ⟨written, _, is_written, ⟨rfl, rfl, ?_⟩, ⟨padding, rfl⟩, ?_, is_written.statedLength _, ?_⟩
  · cases name with
    | none => exact (Except.ok.inj has_body).symm
    | some name =>
        rw [bodyOf] at has_body
        simp only at has_body ⊢
        split at has_body
        · rename_i short
          cases has_body
          rw [splitName_of_isNamed (isNamed_nameHeader short payload), Utf8.decodeLossy_encode]
        · cases has_body
  · rw [List.length_append, aligned]
  · rw [is_written.length]
    omega

end Draft

namespace Draft.IsEncodedAs

variable {draft : Draft} {encoding written : List UInt8} {part : Attribute}

theorem statedLength_pos (as : draft.IsEncodedAs encoding written part) :
    0 < statedLength encoding := by
  rw [as.states]
  exact Nat.lt_of_lt_of_le (by decide) as.enough

theorem statedLength_le (as : draft.IsEncodedAs encoding written part) :
    statedLength encoding ≤ encoding.length := by
  rcases as.cut with ⟨padding, encoding_eq⟩
  rw [as.states, encoding_eq, List.length_append]
  exact Nat.le_add_right ..

/-- An attribute whose padding may be cut off leaves the bytes behind that padding. -/
theorem scanFrom_take (as : draft.IsEncodedAs encoding written part) (offset : Nat)
    (more : List UInt8) {size : Nat} (fits : statedLength encoding ≤ size) :
    scanFrom offset ((encoding ++ more).take size) =
      (scanFrom (offset + encoding.length) (more.take (size - encoding.length))).cons part := by
  rcases as.cut with ⟨padding, encoding_eq⟩
  have length : encoding.length = written.length + padding.length := by
    rw [encoding_eq, List.length_append]
  have front : (encoding ++ more).take size =
      written ++ (padding ++ more).take (size - written.length) := by
    rw [encoding_eq, List.append_assoc, List.take_append, List.take_of_length_le (as.states ▸ fits)]
  have behind : ((padding ++ more).take (size - written.length)).drop
      (padded written.length - written.length) = more.take (size - encoding.length) := by
    rw [← as.aligned, length, Nat.add_sub_cancel_left, List.drop_take, List.drop_left, Nat.sub_sub]
  rw [front, scanFrom_append offset as.is_written, behind, as.aligned]

/-- Where an attribute is cut off, its header is not there, or states more than is there. -/
theorem scanFrom_cut (as : draft.IsEncodedAs encoding written part) (offset : Nat)
    (more : List UInt8) {size : Nat} (cut : size < statedLength encoding) :
    scanFrom offset ((encoding ++ more).take size) =
      ⟨[], if size < headerSize then none
        else some (.badLength offset (statedLength encoding))⟩ := by
  rw [as.states] at cut ⊢
  rcases as.cut with ⟨padding, encoding_eq⟩
  have front : (encoding ++ more).take size = written.take size := by
    rw [encoding_eq, List.append_assoc]
    exact List.take_append_of_le_length (Nat.le_of_lt cut)
  have length : (written.take size).length = size := by
    rw [List.length_take, Nat.min_eq_left (Nat.le_of_lt cut)]
  rw [front]
  by_cases short : size < headerSize
  · rw [scanFrom_of_short offset (by rwa [length]), if_pos short]
  · have states : (Header.ofWord (ofBigEndian ((written.take size).take headerSize))).length =
        written.length := by
      have stated := as.is_written.statedLength []
      rw [List.append_nil, statedLength] at stated
      rwa [List.take_take, Nat.min_eq_left (Nat.le_of_not_lt short)]
    rw [scanFrom, if_neg (by rwa [length]), if_neg short]
    simp only [states, length]
    rw [if_pos (.inr cut)]

end Draft.IsEncodedAs

/-! ## Many attributes -/

/-- What is found in the first bytes of a sequence of attributes that were written. -/
structure FoundIn (drafts : List Draft) (encodings : List (List UInt8)) (offset size count : Nat)
    (found : Scan) : Prop where
  /-- The attributes that are found are those whose stated length lies within the bytes. -/
  within : ∀ place encoding, encodings[place]? = some encoding →
    (place < count ↔ startOf encodings place + statedLength encoding ≤ size)
  at_most : count ≤ drafts.length
  read : List.Forall₂ Draft.IsReadAs (drafts.take count) found.attributes
  /-- A fault is met just if a header is left behind the attributes that are found. -/
  faulty : found.fault.isSome = true ↔ headerSize ≤ size - startOf encodings count
  /-- The fault is the length of the next attribute. -/
  told : ∀ fault, found.fault = some fault → ∃ encoding, encodings[count]? = some encoding ∧
    fault = .badLength (offset + startOf encodings count) (statedLength encoding)

namespace FoundIn

variable {draft : Draft} {encoding written : List UInt8} {part : Attribute} {drafts : List Draft}
  {encodings : List (List UInt8)} {offset size : Nat}

theorem next {count : Nat} {found : Scan} (as : draft.IsEncodedAs encoding written part)
    (fits : statedLength encoding ≤ size) (positive : ∀ other ∈ encodings, 0 < statedLength other)
    (later : FoundIn drafts encodings (offset + encoding.length) (size - encoding.length) count
      found) :
    FoundIn (draft :: drafts) (encoding :: encodings) offset size (count + 1) (found.cons part) := by
  constructor
  case within =>
    intro place other is_other
    cases place with
    | zero =>
        cases is_other
        rw [startOf_zero]
        omega
    | succ place =>
        -- Beyond the first encoding there is something only if it states more than nothing.
        have counted := later.within place other is_other
        have other_positive := positive other (List.mem_of_getElem? is_other)
        rw [startOf_succ]
        omega
  case at_most => exact Nat.succ_le_succ later.at_most
  case read => exact .cons as.is_read later.read
  case faulty =>
    rw [startOf_succ]
    simp only [Scan.cons]
    rw [later.faulty]
    omega
  case told =>
    intro fault is_fault
    rcases later.told fault is_fault with ⟨other, is_other, rfl⟩
    refine ⟨other, is_other, ?_⟩
    rw [startOf_succ, Nat.add_assoc]

theorem of_cut (as : draft.IsEncodedAs encoding written part) (cut : size < statedLength encoding) :
    FoundIn (draft :: drafts) (encoding :: encodings) offset size 0
      ⟨[], if size < headerSize then none
        else some (.badLength offset (statedLength encoding))⟩ := by
  constructor
  case within =>
    intro place other is_other
    cases place with
    | zero =>
        cases is_other
        rw [startOf_zero]
        omega
    | succ place =>
        have within := as.statedLength_le
        rw [startOf_succ]
        omega
  case at_most => exact Nat.zero_le _
  case read => exact .nil
  case faulty =>
    rw [startOf_zero]
    split <;> simp <;> omega
  case told =>
    intro fault is_fault
    refine ⟨encoding, rfl, ?_⟩
    split at is_fault
    · cases is_fault
    · cases is_fault
      rw [startOf_zero, Nat.add_zero]

end FoundIn

theorem exists_foundIn {drafts : List Draft} {encodings : List (List UInt8)}
    (encoded : List.Forall₂ (fun draft encoding => draft.encode = .ok encoding) drafts encodings)
    (offset : Nat) {size : Nat} (inside : size ≤ encodings.flatten.length) :
    ∃ count, FoundIn drafts encodings offset size count
      (scanFrom offset (encodings.flatten.take size)) := by
  -- One attribute leaves the bytes behind its padding, which may have been cut off.
  induction encoded generalizing offset size with
  | nil =>
      have nothing : size = 0 := Nat.le_zero.mp inside
      rw [scanFrom_of_short offset (by simp [nothing, headerSize])]
      exact ⟨0, by simp, Nat.zero_le _, .nil, by simp [nothing, headerSize], by simp⟩
  | @cons draft encoding drafts encodings is_encoded are_encoded ih =>
      rcases Draft.exists_isEncodedAs is_encoded with ⟨written, part, as⟩
      rw [List.flatten_cons, List.length_append] at inside
      rw [List.flatten_cons]
      by_cases fits : statedLength encoding ≤ size
      · have positive : ∀ other ∈ encodings, 0 < statedLength other := by
          intro other other_mem
          rcases (mem_of_mapM_eq_ok (mapM_eq_ok_iff.mpr are_encoded)).2 other other_mem with
            ⟨source, -, is_source⟩
          rcases Draft.exists_isEncodedAs is_source with ⟨other_written, other_part, other_as⟩
          exact other_as.statedLength_pos
        rcases ih (offset + encoding.length) (Nat.sub_le_iff_le_add'.mpr inside) with ⟨count, later⟩
        rw [as.scanFrom_take offset _ fits]
        exact ⟨count + 1, later.next as fits positive⟩
      · rw [Nat.not_le] at fits
        rw [as.scanFrom_cut offset _ fits]
        exact ⟨0, .of_cut as fits⟩

/-- The first bytes of attributes that were written hold the attributes whose stated length lies
within them, each as it was written. Reading them ends with a fault just if the bytes behind the last
of these and its padding are at least a header. -/
theorem scan_take {drafts : List Draft} {encodings : List (List UInt8)}
    (encoded : drafts.mapM Draft.encode = .ok encodings) {size : Nat}
    (inside : size ≤ encodings.flatten.length) :
    ∃ count, FoundIn drafts encodings 0 size count (scan (encodings.flatten.take size)) :=
  exists_foundIn (mapM_eq_ok_iff.mp encoded) 0 inside

/-- Three attributes, of which the first one ends in padding and the second one holds another. -/
def nestedDrafts : List Draft :=
  [⟨3, [1], none⟩, ⟨127, [0, 0, 0, 4], some "é"⟩, ⟨0, [], none⟩]

/-- The bytes of the three attributes. -/
def nestedEncodings : List (List UInt8) :=
  [[3, 0, 0, 5, 1, 0, 0, 0],
    [255, 0, 0, 16, 0, 2, 195, 169, 0, 0, 0, 0, 0, 0, 0, 4],
    [0, 0, 0, 4]]

theorem scan_take_nestedDrafts :
    nestedDrafts.mapM Draft.encode = .ok nestedEncodings ∧ 23 ≤ nestedEncodings.flatten.length ∧
      FoundIn nestedDrafts nestedEncodings 0 23 1 (scan (nestedEncodings.flatten.take 23)) ∧
      (scan (nestedEncodings.flatten.take 23)).fault = some (.badLength 8 16) := by
  have encoded : nestedDrafts.mapM Draft.encode = .ok nestedEncodings := rfl
  have inside : 23 ≤ nestedEncodings.flatten.length := by decide
  rcases scan_take encoded inside with ⟨count, found⟩
  have first : 0 < count := (found.within 0 _ rfl).mpr (by decide)
  have second : ¬1 < count := fun counted => absurd ((found.within 1 _ rfl).mp counted) (by decide)
  have only : count = 1 := by omega
  subst only
  refine ⟨encoded, inside, found, ?_⟩
  rcases Option.isSome_iff_exists.mp (found.faulty.mpr (by decide)) with ⟨fault, is_fault⟩
  rcases found.told fault is_fault with ⟨encoding, is_encoding, told⟩
  cases is_encoding
  rw [is_fault, told]
  rfl

end LogRelay.Blob
