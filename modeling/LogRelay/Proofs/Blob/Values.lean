import LogRelay.Blob.Table
import LogRelay.Proofs.Blob.Words
import LogRelay.Proofs.Text.Utf8

/-!
# Values on the wire

Which bytes stand for a value of each type, and which values have bytes. What an attribute of a type
can hold is `Storable`. It has bytes of a known number, and they are read back as the value itself,
except that a text ends at its first U+0000 (`exists_encodeValue`).
-/

namespace LogRelay.Blob

theorem Kind.ofCode?_code (kind : Kind) : Kind.ofCode? kind.code = some kind := by
  cases kind <;> rfl

/-! ## Reading -/

theorem decodeValue_string_eq_ok_iff {bytes : List UInt8} {value : Value} :
    decodeValue Kind.string.code bytes = .ok value ↔
      bytes.getLast? = some 0 ∧
        value = .text (Utf8.decodeLossy (bytes.takeWhile (· ≠ 0))) := by
  rw [decodeValue, Kind.ofCode?_code]
  simp only
  split
  · rename_i ends
    simp [ends, eq_comm]
  · rename_i unterminated
    simp [unterminated]

theorem decodeValue_integer_eq_ok_iff {kind : Kind} {width : Nat}
    (has_width : kind.width? = some width) (whole : kind ≠ .double) {bytes : List UInt8}
    {value : Value} :
    decodeValue kind.code bytes = .ok value ↔
      bytes.length = width ∧ value = .integer (ofBigEndian bytes) := by
  rw [decodeValue, Kind.ofCode?_code]
  cases kind
  case unspecified | array | table | string => cases has_width
  case double => exact absurd rfl whole
  all_goals
    simp only [has_width, reduceCtorEq, if_false]
    split
    · rename_i misfit
      simp [misfit]
    · rename_i fits
      rw [not_not] at fits
      simp [fits, eq_comm]

theorem decodeValue_double_eq_ok_iff {bytes : List UInt8} {value : Value} :
    decodeValue Kind.double.code bytes = .ok value ↔
      bytes.length = 8 ∧ value = .double ⟨UInt64.ofNat (ofBigEndian bytes)⟩ := by
  rw [decodeValue, Kind.ofCode?_code]
  simp only [Kind.width?, if_true]
  split
  · rename_i misfit
    simp [misfit]
  · rename_i fits
    rw [not_not] at fits
    simp [fits, eq_comm]

/-! ## Writing -/

/-- The values that an attribute of a type can hold: texts, whole numbers without a sign that fit the
width of the type, and doubles. -/
inductive Storable : Int → Value → Prop
  | text (text : String) : Storable Kind.string.code (.text text)
  | integer {kind : Kind} {width : Nat} {number : Int} :
      kind.width? = some width → kind ≠ .double → 0 ≤ number → number < Nat.pow 256 width →
      Storable kind.code (.integer number)
  | double (number : Double) : Storable Kind.double.code (.double number)

/-- The value as it is read back: a text ends at its first U+0000. -/
def Value.readBack : Value → Value
  | .text content => .text (Utf8.untilZero content)
  | other => other

/-- The number of bytes of a value of a type. -/
def payloadSize (type : Int) (value : Value) : Nat :=
  match value with
  | .text content => (Utf8.encode content).length + 1
  | _ => ((Kind.ofCode? type).bind Kind.width?).getD 0

theorem encodeValue_integer {kind : Kind} {width : Nat} (has_width : kind.width? = some width)
    (whole : kind ≠ .double) (number : Int) :
    encodeValue kind.code (.integer number) =
      if 0 ≤ number ∧ number < Nat.pow 256 width then .ok (bigEndian width number.toNat)
      else .error .unfit := by
  unfold encodeValue
  rw [Kind.ofCode?_code]
  -- The powers of 256 are left uncomputed, since the cases would compute them digit by digit.
  generalize Nat.pow 256 = power
  cases kind
  case unspecified | array | table | string => cases has_width
  case double => exact absurd rfl whole
  all_goals
    cases has_width
    rfl

/-- A storable value has bytes, as many as its type says, and they are read back. -/
theorem exists_encodeValue {type : Int} {value : Value} (storable : Storable type value) :
    ∃ bytes, encodeValue type value = .ok bytes ∧ bytes.length = payloadSize type value ∧
      decodeValue type bytes = .ok value.readBack := by
  cases storable with
  | text text =>
      refine ⟨Utf8.encode text ++ [0], ?_, ?_, ?_⟩
      · unfold encodeValue
        rw [Kind.ofCode?_code]
      · rw [List.length_append]
        rfl
      · rw [decodeValue_string_eq_ok_iff, List.getLast?_concat, Utf8.takeWhile_encode,
          Utf8.decodeLossy_encode]
        exact ⟨rfl, rfl⟩
  | @integer kind width number has_width whole positive fits =>
      have written := encodeValue_integer has_width whole number
      rw [if_pos ⟨positive, fits⟩] at written
      refine ⟨_, written, ?_, ?_⟩
      · simp only [length_bigEndian, payloadSize, Kind.ofCode?_code, Option.bind_some, has_width,
          Option.getD_some]
      · rw [decodeValue_integer_eq_ok_iff has_width whole]
        refine ⟨length_bigEndian .., ?_⟩
        rw [ofBigEndian_bigEndian (by omega), Int.toNat_of_nonneg positive]
        rfl
  | double number =>
      refine ⟨bigEndian 8 number.bits.toNat, ?_, length_bigEndian .., ?_⟩
      · unfold encodeValue
        rw [Kind.ofCode?_code]
      · rw [decodeValue_double_eq_ok_iff, ofBigEndian_bigEndian number.bits.toNat_lt]
        exact ⟨length_bigEndian .., by rw [UInt64.ofNat_toNat]; rfl⟩

end LogRelay.Blob
