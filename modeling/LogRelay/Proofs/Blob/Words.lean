import LogRelay.Blob.Attribute
import Mathlib.Data.List.Induction

/-!
# Words on the wire

Numbers are written with a fixed number of bytes, the most significant first. Writing and reading
are inverse to one another as long as the number fits (`ofBigEndian_bigEndian`,
`bigEndian_ofBigEndian`), and so are the word of a header and what it states (`decode_encode`).
-/

namespace LogRelay.Blob

/-! ## Numbers -/

@[simp]
theorem length_bigEndian (width number : Nat) : (bigEndian width number).length = width := by
  induction width generalizing number with
  | zero => rfl
  | succ width ih => simp [bigEndian, ih]

theorem ofBigEndian_concat (bytes : List UInt8) (byte : UInt8) :
    ofBigEndian (bytes ++ [byte]) = ofBigEndian bytes * 256 + byte.toNat := by
  simp [ofBigEndian]

theorem ofBigEndian_bigEndian {width number : Nat} (fits : number < Nat.pow 256 width) :
    ofBigEndian (bigEndian width number) = number := by
  induction width generalizing number with
  | zero =>
      have zero : number = 0 := Nat.lt_one_iff.mp fits
      rw [zero]
      rfl
  | succ width ih =>
      have fits_before : number / 256 < Nat.pow 256 width :=
        Nat.div_lt_of_lt_mul (by rwa [Nat.mul_comm])
      have low : (UInt8.ofNat (number % 256)).toNat = number % 256 :=
        UInt8.toNat_ofNat_of_lt' (Nat.mod_lt _ (by decide))
      rw [bigEndian, ofBigEndian_concat, ih fits_before, low]
      omega

theorem bigEndian_ofBigEndian (bytes : List UInt8) :
    bigEndian bytes.length (ofBigEndian bytes) = bytes := by
  induction bytes using List.reverseRecOn with
  | nil => rfl
  | append_singleton bytes byte ih =>
      have small := byte.toNat_lt
      have high : (ofBigEndian bytes * 256 + byte.toNat) / 256 = ofBigEndian bytes := by omega
      have low : (ofBigEndian bytes * 256 + byte.toNat) % 256 = byte.toNat := by omega
      rw [List.length_append, List.length_singleton, ofBigEndian_concat, bigEndian, high, low, ih,
        UInt8.ofNat_toNat]

theorem ofBigEndian_lt (bytes : List UInt8) : ofBigEndian bytes < Nat.pow 256 bytes.length := by
  induction bytes using List.reverseRecOn with
  | nil => decide
  | append_singleton bytes byte ih =>
      have small := byte.toNat_lt
      have power : Nat.pow 256 (bytes.length + 1) = Nat.pow 256 bytes.length * 256 := rfl
      rw [List.length_append, List.length_singleton, ofBigEndian_concat, power]
      omega

/-! ## Headers -/

namespace Header

theorem length_encode (header : Header) : header.encode.length = headerSize :=
  length_bigEndian ..

theorem length_of_decode_eq_ok {bytes : List UInt8} {header : Header}
    (decoded : decode bytes = .ok header) : bytes.length = headerSize := by
  rw [decode] at decoded
  split at decoded
  · assumption
  · cases decoded

theorem ofWord_word {header : Header} (short : header.length ≤ lengthLimit) (small : header.id < 128) :
    ofWord header.word = header := by
  rcases header with ⟨length, id, extended⟩
  simp only [lengthLimit] at short small
  cases extended <;>
    simp only [word, ofWord, idUnit, extendedUnit, if_true, if_false, Bool.false_eq_true, mk.injEq,
      decide_eq_true_eq, decide_eq_false_iff_not] <;>
    omega

theorem decode_encode {header : Header} (short : header.length ≤ lengthLimit)
    (small : header.id < 128) : decode header.encode = .ok header := by
  have fits : header.word < Nat.pow 256 headerSize := by
    have power : Nat.pow 256 headerSize = 4294967296 := rfl
    simp only [lengthLimit] at short
    simp only [power, word, idUnit, extendedUnit]
    split <;> omega
  rw [decode, if_pos (length_encode header), encode, ofBigEndian_bigEndian fits,
    ofWord_word short small]

end Header

/-! ## Padding -/

theorem le_padded (length : Nat) : length ≤ padded length := by
  rw [padded]
  omega

theorem padded_eq_self {length : Nat} (aligned : length % 4 = 0) : padded length = length := by
  rw [padded]
  omega

theorem padded_mod (length : Nat) : padded length % 4 = 0 := by
  rw [padded]
  omega

end LogRelay.Blob
