import LogRelay.Proofs.Blob.Words

/-!
# Sequences of attributes

What a sequence of attributes looks like is said here by a grammar that knows no offsets and no
order of reading: an attribute is a header that states its length and a body, attributes stand on
multiples of four bytes, the padding of the last one may be missing, and up to three bytes may
follow. The main statement is that reading comes to the end of exactly these byte sequences, and
finds exactly these attributes (`scan_eq_iff`).

An attribute that is written is one of the grammar, filled up with padding (`exists_isWritten`).
-/

namespace LogRelay.Blob

/-! ## The grammar -/

/-- The bytes are a header and the body of the attribute. -/
def IsWritten (bytes : List UInt8) (part : Attribute) : Prop :=
  ∃ header, bytes = header ++ part.body ∧
    Header.decode header = .ok ⟨bytes.length, part.id, part.extended⟩

/-- The bytes are attributes one behind the other, each filled up to a multiple of four bytes. -/
inductive Sequence : List UInt8 → List Attribute → Prop
  | rest {bytes : List UInt8} : bytes.length < headerSize → Sequence bytes []
  /-- The padding of the last attribute may be cut off. -/
  | last {written padding : List UInt8} {part : Attribute} :
      IsWritten written part →
      written.length + padding.length < padded written.length →
      Sequence (written ++ padding) [part]
  | cons {written padding more : List UInt8} {part : Attribute} {parts : List Attribute} :
      IsWritten written part →
      written.length + padding.length = padded written.length →
      Sequence more parts →
      Sequence (written ++ padding ++ more) (part :: parts)

theorem IsWritten.length {bytes : List UInt8} {part : Attribute}
    (written : IsWritten bytes part) : bytes.length = headerSize + part.body.length := by
  rcases written with ⟨header, rfl, decoded⟩
  rw [List.length_append, Header.length_of_decode_eq_ok decoded]

/-! ## Reading -/

theorem scanFrom_of_short (offset : Nat) {bytes : List UInt8} (short : bytes.length < headerSize) :
    scanFrom offset bytes = ⟨[], none⟩ := by
  rw [scanFrom, if_pos short]

/-- An attribute in front is read, and reading goes on behind its padding. -/
theorem scanFrom_append (offset : Nat) {written : List UInt8} {part : Attribute}
    (is_written : IsWritten written part) (more : List UInt8) :
    scanFrom offset (written ++ more) =
      (scanFrom (offset + padded written.length)
        (more.drop (padded written.length - written.length))).cons part := by
  have length := is_written.length
  rcases is_written with ⟨header, rfl, decoded⟩
  have size := Header.length_of_decode_eq_ok decoded
  have front : (header ++ part.body ++ more).take headerSize = header := by
    rw [List.append_assoc, List.take_left' size]
  rw [Header.decode, if_pos size] at decoded
  have states := Except.ok.inj decoded
  have enough : ¬(header ++ part.body ++ more).length < headerSize := by
    simp only [List.length_append] at length ⊢
    omega
  rw [scanFrom, if_neg enough, front]
  simp only [states]
  have fits : ¬((header ++ part.body).length < headerSize ∨
      (header ++ part.body ++ more).length < (header ++ part.body).length) := by
    simp only [List.length_append] at length ⊢
    omega
  have behind : (header ++ part.body ++ more).drop (padded (header ++ part.body).length) =
      more.drop (padded (header ++ part.body).length - (header ++ part.body).length) := by
    rw [List.drop_append, List.drop_eq_nil_of_le (le_padded _), List.nil_append]
  have body : ((header ++ part.body ++ more).take
      (header ++ part.body).length).drop headerSize = part.body := by
    rw [List.take_left, ← size, List.drop_left]
  rw [if_neg fits, behind, body]

/-- The attributes of a sequence are read without a fault. -/
theorem scanFrom_of_sequence {bytes : List UInt8} {parts : List Attribute}
    (sequence : Sequence bytes parts) (offset : Nat) :
    scanFrom offset bytes = ⟨parts, none⟩ := by
  induction sequence generalizing offset with
  | rest short => exact scanFrom_of_short offset short
  | @last written padding part is_written cut =>
      rw [scanFrom_append offset is_written, List.drop_eq_nil_of_le (by omega),
        scanFrom_of_short _ (by decide)]
      rfl
  | @cons written padding more part parts is_written aligned sequence ih =>
      have behind : (padding ++ more).drop (padded written.length - written.length) = more := by
        rw [← aligned, Nat.add_sub_cancel_left, List.drop_left]
      rw [List.append_assoc, scanFrom_append offset is_written, behind, ih]
      rfl

theorem sequence_nil {parts : List Attribute} (sequence : Sequence [] parts) :
    parts = [] := by
  have found := scanFrom_of_sequence sequence 0
  rw [scanFrom_of_short 0 (by decide)] at found
  exact (congrArg Scan.attributes found).symm

/-- An attribute in front and a sequence behind its padding make a sequence, also where the padding
is cut off. -/
theorem Sequence.of_drop {bytes : List UInt8} {part : Attribute} {parts : List Attribute}
    {length : Nat} (fits : length ≤ bytes.length) (is_written : IsWritten (bytes.take length) part)
    (sequence : Sequence (bytes.drop (padded length)) parts) : Sequence bytes (part :: parts) := by
  have front : (bytes.take length).length = length := by
    rw [List.length_take, Nat.min_eq_left fits]
  have above := le_padded length
  by_cases whole : padded length ≤ bytes.length
  · have behind : bytes.drop (padded length) =
        (bytes.drop length).drop (padded length - length) := by
      rw [List.drop_drop, Nat.add_sub_cancel' above]
    have cut : bytes = bytes.take length ++ (bytes.drop length).take (padded length - length) ++
        bytes.drop (padded length) := by
      rw [List.append_assoc, behind, List.take_append_drop, List.take_append_drop]
    rw [cut]
    refine .cons is_written ?_ sequence
    rw [front, List.length_take, List.length_drop]
    omega
  · have nothing : bytes.drop (padded length) = [] := List.drop_eq_nil_of_le (by omega)
    rw [nothing] at sequence
    rw [sequence_nil sequence, ← List.take_append_drop length bytes]
    refine .last is_written ?_
    rw [front, List.length_drop]
    omega

/-- Where as many bytes stand as a header states, they are an attribute. -/
theorem isWritten_take {bytes : List UInt8} {header : Header}
    (states : Header.ofWord (ofBigEndian (bytes.take headerSize)) = header)
    (enough : headerSize ≤ header.length) (fits : header.length ≤ bytes.length) :
    IsWritten (bytes.take header.length)
      ⟨header.id, header.extended, (bytes.take header.length).drop headerSize⟩ := by
  have size : (bytes.take headerSize).length = headerSize := by
    rw [List.length_take, Nat.min_eq_left (Nat.le_trans enough fits)]
  refine ⟨bytes.take headerSize, ?_, ?_⟩
  · conv_lhs => rw [← List.take_append_drop headerSize (bytes.take header.length)]
    rw [List.take_take, Nat.min_eq_left enough]
  · rw [Header.decode, if_pos size, states, List.length_take, Nat.min_eq_left fits]

/-- What is read without a fault is a sequence. -/
theorem sequence_of_scanFrom {offset : Nat} {bytes : List UInt8} {parts : List Attribute}
    (found : scanFrom offset bytes = ⟨parts, none⟩) : Sequence bytes parts := by
  -- The induction follows the reading; the offset matters to faults only.
  fun_induction scanFrom offset bytes generalizing parts with
  | case1 offset bytes short =>
      cases found
      exact .rest short
  | case2 offset bytes enough misfit => cases found
  | case3 offset bytes enough header fits =>
      rename_i ih
      rw [not_or, Nat.not_lt, Nat.not_lt] at fits
      have parts_eq := congrArg Scan.attributes found
      have faultless := congrArg Scan.fault found
      simp only [Scan.cons] at parts_eq faultless
      rw [← parts_eq]
      refine .of_drop fits.2 (isWritten_take rfl fits.1 fits.2) (ih ?_)
      rw [← faultless]

/-- Reading comes to the end of exactly the sequences of attributes, and finds their attributes. -/
theorem scan_eq_iff {bytes : List UInt8} {parts : List Attribute} :
    scan bytes = ⟨parts, none⟩ ↔ Sequence bytes parts :=
  ⟨sequence_of_scanFrom, fun sequence => scanFrom_of_sequence sequence 0⟩

/-! ## Writing -/

theorem encodeAttribute_eq (id : Int) {payload body : List UInt8} {name : Option String}
    (has_body : bodyOf name payload = .ok body) :
    encodeAttribute id payload name =
      if lengthLimit < headerSize + body.length then .error (.oversized (headerSize + body.length))
      else .ok (fill
        (Header.encode ⟨headerSize + body.length, (id % 128).toNat, name.isSome⟩ ++ body)
        (padded (headerSize + body.length))) := by
  rw [encodeAttribute, has_body]
  by_cases long : lengthLimit < headerSize + body.length
  · simp [bind, Except.bind, throw, throwThe, MonadExceptOf.throw, long]
  · simp [bind, Except.bind, pure, Except.pure, long]

/-- What is written is an attribute of the grammar with its padding. -/
theorem exists_isWritten (id : Int) {payload body bytes : List UInt8} {name : Option String}
    (has_body : bodyOf name payload = .ok body)
    (encoded : encodeAttribute id payload name = .ok bytes) :
    ∃ written padding, bytes = written ++ padding ∧
      IsWritten written ⟨(id % 128).toNat, name.isSome, body⟩ ∧
      written.length + padding.length = padded written.length ∧
      written.length ≤ lengthLimit := by
  rw [encodeAttribute_eq id has_body] at encoded
  split at encoded
  · cases encoded
  · rename_i short
    rw [Nat.not_lt] at short
    generalize states : Header.mk (headerSize + body.length) (id % 128).toNat name.isSome = header
    have length_eq : header.length = headerSize + body.length := by rw [← states]
    have small : header.id < 128 := by
      rw [← states]
      simp only
      omega
    rw [states] at encoded
    have length : (header.encode ++ body).length = headerSize + body.length := by
      rw [List.length_append, Header.length_encode]
    refine ⟨header.encode ++ body,
      List.replicate (padded (headerSize + body.length) - (headerSize + body.length)) 0,
      ?_, ⟨header.encode, rfl, ?_⟩, ?_, ?_⟩
    · rw [← Except.ok.inj encoded, fill, length]
    · rw [Header.decode_encode (by omega) small, length, ← states]
    · rw [length, List.length_replicate]
      have above := le_padded (headerSize + body.length)
      omega
    · omega

end LogRelay.Blob
