import LogRelay.Proofs.Text.Utf8

/-!
# Sizes of texts and what fits into a number of bytes

The size of a text is the number of its bytes, and sizes add up.

A text that is too long is cut in its bytes, and the bytes left of a character that was cut through
are dropped when the rest is decoded. In all, the characters from the front stay for which there is
room (`truncate_eq`): the longest prefix of the text that has at most as many bytes as asked for
(`isLongest_truncate`).
-/

namespace LogRelay.Utf8

/-! ## Sizes -/

theorem encode_append (first second : String) :
    encode (first ++ second) = encode first ++ encode second := by
  simp [encode]

theorem size_eq_length_encode (text : String) : size text = (encode text).length := by
  have sums : ∀ (chars : List Char) (total : Nat),
      chars.foldl (fun total char => total + charSize char) total =
        total + (chars.flatMap encodeChar).length := by
    intro chars
    induction chars with
    | nil => simp
    | cons char chars ih =>
        intro total
        rw [List.foldl_cons, ih, List.flatMap_cons, List.length_append, charSize]
        omega
  simp [size, encode, sums]

@[simp]
theorem size_empty : size "" = 0 := rfl

@[simp]
theorem size_append (first second : String) : size (first ++ second) = size first + size second := by
  simp [size_eq_length_encode, encode_append]

/-- The bytes of a character are those that the library gives it. -/
theorem encodeChar_eq (char : Char) : encodeChar char = String.utf8EncodeChar char := by
  have valid : char.toNat.isValidChar := char.valid
  rw [Nat.isValidChar] at valid
  simp only [encodeChar, String.utf8EncodeChar, show char.val.toNat = char.toNat from rfl]
  generalize char.toNat = code at valid ⊢
  simp only [show code ≤ 127 ↔ code < 0x80 by omega, show code ≤ 2047 ↔ code < 0x800 by omega,
    show code ≤ 65535 ↔ code < 0x10000 by omega]
  -- A leading byte has room for the upper bits, so that cutting them to it changes nothing.
  split_ifs with ascii two three
  · rfl
  · rw [show code / 64 % 32 + 192 = 0xC0 + code / 64 by omega, Nat.add_comm 0x80]
  · rw [show code / 4096 % 16 + 224 = 0xE0 + code / 4096 by omega, Nat.add_comm 0x80,
      Nat.add_comm 0x80]
  · rw [show code / 262144 % 8 + 240 = 0xF0 + code / 262144 by omega, Nat.add_comm 0x80,
      Nat.add_comm 0x80, Nat.add_comm 0x80]

theorem size_eq_utf8ByteSize (text : String) : size text = text.utf8ByteSize := by
  have sums : ∀ chars : List Char,
      (chars.flatMap encodeChar).length = (String.ofList chars).utf8ByteSize := by
    intro chars
    induction chars with
    | nil => rfl
    | cons char chars ih =>
        rw [List.flatMap_cons, List.length_append, ih, encodeChar_eq, String.length_utf8EncodeChar,
          String.ofList_cons, String.utf8ByteSize_append, String.utf8ByteSize_singleton]
  rw [size_eq_length_encode, encode, sums, String.ofList_toList]

/-- Each character of ASCII is one byte. -/
theorem utf8ByteSize_of_ascii {text : String} (ascii : ∀ char ∈ text.toList, char.toNat < 128) :
    text.utf8ByteSize = text.length := by
  rw [← size_eq_utf8ByteSize, size_eq_length_encode, encode, ← String.length_toList]
  generalize text.toList = chars at ascii ⊢
  induction chars with
  | nil => rfl
  | cons char chars ih =>
      rw [List.forall_mem_cons] at ascii
      have one : encodeChar char = [UInt8.ofNat char.toNat] := if_pos ascii.1
      rw [List.flatMap_cons, List.length_append, one, ih ascii.2, List.length_singleton,
        List.length_cons, Nat.add_comm]

/-! ## What fits -/

/-- The characters from the front for which there is room. -/
def fitting : (room : Nat) → List Char → List Char
  | _, [] => []
  | room, char :: chars =>
      if charSize char ≤ room then char :: fitting (room - charSize char) chars else []

theorem isPrefix_fitting (room : Nat) (chars : List Char) : fitting room chars <+: chars := by
  induction chars generalizing room with
  | nil => simp [fitting]
  | cons char chars ih =>
      rw [fitting]
      split
      · exact (List.prefix_cons_inj char).mpr (ih _)
      · exact List.nil_prefix

theorem length_flatMap_fitting_le (room : Nat) (chars : List Char) :
    ((fitting room chars).flatMap encodeChar).length ≤ room := by
  induction chars generalizing room with
  | nil => simp [fitting]
  | cons char chars ih =>
      rw [fitting]
      split
      case isTrue fits =>
        have later := ih (room - charSize char)
        simp only [List.flatMap_cons, List.length_append, charSize] at later fits ⊢
        omega
      case isFalse => simp

theorem fitting_eq_self {room : Nat} {chars : List Char}
    (fits : (chars.flatMap encodeChar).length ≤ room) : fitting room chars = chars := by
  induction chars generalizing room with
  | nil => simp [fitting]
  | cons char chars ih =>
      simp only [List.flatMap_cons, List.length_append] at fits
      have here : charSize char ≤ room := by
        rw [charSize]
        omega
      rw [fitting, if_pos here, ih]
      rw [charSize]
      omega

/-- Nothing can be read from a character that has been cut through. -/
theorem decodeOnto_cut {char : Char} {room : Nat} (cut : room < charSize char) (read : List Char) :
    decodeOnto [] read ((encodeChar char).take room) = read.reverse := by
  have nothing : decodeOnto [] read [] = read.reverse := by rw [decodeOnto]
  -- A first byte is followed by too few of the bytes that it asks for, and all of them are dropped.
  have dropped : ∀ {byte : UInt8} {bytes : List UInt8}, step byte bytes = (none, []) →
      decodeOnto [] read (byte :: bytes) = read.reverse := by
    intro byte bytes faulty
    rw [decodeOnto]
    split <;> simp_all
  have form := isForm_encodeChar char
  rw [charSize] at cut
  generalize encodeChar char = bytes at form cut
  generalize char.toNat = code at form
  cases form with
  | one byte high =>
      simp only [List.length_singleton, Nat.lt_one_iff] at cut
      subst cut
      exact nothing
  | two first second low high owed =>
      rcases room with _ | _ | room
      · exact nothing
      · apply dropped
        simp [step, Lead.ofByte?_two low high, gather]
      · simp only [List.length_cons, List.length_nil] at cut
        omega
  | three first second third low high owed last =>
      rcases room with _ | _ | _ | room
      · exact nothing
      · apply dropped
        simp [step, Lead.ofByte?_three low high, gather]
      · apply dropped
        simp [step, Lead.ofByte?_three low high, gather, owed]
      · simp only [List.length_cons, List.length_nil] at cut
        omega
  | four first second third fourth low high owed next last =>
      rcases room with _ | _ | _ | _ | room
      · exact nothing
      · apply dropped
        simp [step, Lead.ofByte?_four low high, gather]
      · apply dropped
        simp [step, Lead.ofByte?_four low high, gather, owed]
      · apply dropped
        simp [step, Lead.ofByte?_four low high, gather, owed, next]
      · simp only [List.length_cons, List.length_nil] at cut
        omega

/-- Reading the first bytes of some characters gives those characters that fit into them. -/
theorem decodeOnto_take (read chars : List Char) (room : Nat) :
    decodeOnto [] read ((chars.flatMap encodeChar).take room) =
      read.reverse ++ fitting room chars := by
  induction chars generalizing read room with
  | nil => simp [fitting, decodeOnto]
  | cons char chars ih =>
      rw [fitting, List.flatMap_cons, List.take_append]
      split
      case isTrue fits =>
        rw [List.take_of_length_le fits]
        cases encoded : encodeChar char with
        | nil => exact absurd encoded (encodeChar_ne_nil char)
        | cons byte tail =>
            have taken : ∀ rest, step byte (tail ++ rest) = (some char, rest) := by
              intro rest
              rw [step_eq_some_iff, encoded, List.cons_append]
            rw [List.cons_append, decodeOnto_of_step [] read (taken _), ← encoded, ih]
            simp [charSize]
      case isFalse cut =>
        rw [charSize, Nat.not_le] at cut
        rw [Nat.sub_eq_zero_of_le (Nat.le_of_lt cut), List.take_zero, List.append_nil,
          decodeOnto_cut cut, List.append_nil]

/-! ## Cutting -/

/-- A text that is cut keeps the characters from its front that fit. -/
theorem truncate_eq (text : String) {limit : Int} (natural : 0 ≤ limit) :
    truncate text limit = String.ofList (fitting limit.toNat text.toList) := by
  rw [truncate]
  split
  case isTrue fits =>
    rw [encode] at fits
    rw [fitting_eq_self (by omega)]
    exact String.ofList_toList.symm
  case isFalse =>
    rw [decodeDropping, encode, decodeOnto_take]
    rfl

theorem isPrefix_toList_truncate (text : String) {limit : Int} (natural : 0 ≤ limit) :
    (truncate text limit).toList <+: text.toList := by
  rw [truncate_eq text natural, String.toList_ofList]
  exact isPrefix_fitting ..

theorem size_truncate_le (text : String) {limit : Int} (natural : 0 ≤ limit) :
    (size (truncate text limit) : Int) ≤ limit := by
  have fits := length_flatMap_fitting_le limit.toNat text.toList
  rw [truncate_eq text natural, size_eq_length_encode, encode, String.toList_ofList]
  omega

/-! ## The longest prefix -/

/-- The longest prefix of a text for which there is room: whole characters from the front, at most so
many bytes, and too many with the character that comes next, if there is one. -/
structure IsLongest (limit : Nat) (text cut : String) : Prop where
  isPrefix : cut.toList <+: text.toList
  fits : cut.utf8ByteSize ≤ limit
  maximal : cut = text ∨
    ∃ char, (cut.push char).toList <+: text.toList ∧ limit < (cut.push char).utf8ByteSize

namespace IsLongest

variable {limit : Nat} {text cut other : String}

/-- Any other prefix that fits is shorter. -/
theorem greatest (longest : IsLongest limit text cut) (starts : other.toList <+: text.toList)
    (other_fits : other.utf8ByteSize ≤ limit) : other.toList <+: cut.toList := by
  rcases longest.maximal with rfl | ⟨char, next_starts, exceeds⟩
  · exact starts
  rcases List.prefix_or_prefix_of_prefix starts next_starts with shorter | longer
  · rw [String.toList_push, List.prefix_concat_iff] at shorter
    rcases shorter with same | shorter
    · rw [← String.toList_push, String.toList_inj] at same
      rw [same] at other_fits
      omega
    · exact shorter
  · rcases longer with ⟨more, appended⟩
    have sizes : (cut.push char ++ String.ofList more).utf8ByteSize = other.utf8ByteSize := by
      congr 1
      rw [← String.toList_inj, String.toList_append, String.toList_ofList, appended]
    rw [String.utf8ByteSize_append] at sizes
    omega

theorem unique (longest : IsLongest limit text cut) (also : IsLongest limit text other) :
    cut = other := by
  have shorter := also.greatest longest.isPrefix longest.fits
  have longer := longest.greatest also.isPrefix also.fits
  exact String.toList_inj.mp (shorter.eq_of_length_le longer.length_le)

end IsLongest

/-- What comes after the characters that fit is too much. -/
theorem fitting_maximal (room : Nat) (chars : List Char) :
    fitting room chars = chars ∨ ∃ char, fitting room chars ++ [char] <+: chars ∧
      room < ((fitting room chars ++ [char]).flatMap encodeChar).length := by
  induction chars generalizing room with
  | nil => exact .inl rfl
  | cons char chars ih =>
      rw [fitting]
      split
      case isTrue fits =>
        rw [charSize] at fits
        rcases ih (room - charSize char) with all | ⟨next, next_starts, exceeds⟩
        · exact .inl (by rw [all])
        · refine .inr ⟨next, (List.prefix_cons_inj char).mpr next_starts, ?_⟩
          rw [charSize] at exceeds
          rw [List.cons_append, List.flatMap_cons, List.length_append]
          simp only [charSize] at exceeds ⊢
          omega
      case isFalse exceeds =>
        refine .inr ⟨char, by simp, ?_⟩
        simpa [charSize] using exceeds

theorem isLongest_truncate (text : String) (limit : Nat) :
    IsLongest limit text (truncate text limit) := by
  have natural : (0 : Int) ≤ limit := by omega
  refine ⟨isPrefix_toList_truncate text natural, ?_, ?_⟩
  · have fits := size_truncate_le text natural
    rw [size_eq_utf8ByteSize] at fits
    omega
  · rw [truncate_eq text natural, Int.toNat_natCast]
    rcases fitting_maximal limit text.toList with all | ⟨next, next_starts, exceeds⟩
    · exact .inl (by rw [all, String.ofList_toList])
    · refine .inr ⟨next, by simpa using next_starts, ?_⟩
      rw [← size_eq_utf8ByteSize, size_eq_length_encode, encode]
      simpa using exceeds

end LogRelay.Utf8
