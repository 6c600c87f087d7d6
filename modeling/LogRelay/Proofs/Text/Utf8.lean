import LogRelay.Text.Utf8
import Mathlib.Data.List.TakeWhile
import Mathlib.Tactic.SplitIfs

/-!
# Laws of UTF-8

Decoding takes a character from the front of a byte sequence exactly when its encoding stands there
(`step_eq_some_iff`). Everything else follows by going along the characters: what is encoded is read
back (`decodeLossy_encode`), and a text without U+FFFD is read from its own encoding only
(`decodeLossy_eq_iff`), since every faulty run leaves a U+FFFD behind.

A zero byte stands for U+0000 and for nothing else, so cutting bytes at the first zero byte and
cutting a text at its first U+0000 come to the same (`takeWhile_encode`).
-/

namespace LogRelay.Utf8

/-! ## First bytes -/

theorem Lead.ofByte?_one {byte : Nat} (high : byte < 0x80) :
    Lead.ofByte? byte = some ⟨0, 0, 0, byte⟩ :=
  if_pos high

theorem Lead.ofByte?_two {byte : Nat} (low : 0xC2 ≤ byte) (high : byte < 0xE0) :
    Lead.ofByte? byte = some ⟨1, 0x80, 0xBF, byte - 0xC0⟩ := by
  rw [ofByte?, if_neg (by omega), if_neg (by omega), if_pos high]

/-- The byte behind 0xE0 is so great that the form is not overlong, and the one behind 0xED so small
that no surrogate is written. -/
theorem Lead.ofByte?_three {byte : Nat} (low : 0xE0 ≤ byte) (high : byte < 0xF0) :
    Lead.ofByte? byte =
      some ⟨2, if byte = 0xE0 then 0xA0 else 0x80, if byte = 0xED then 0x9F else 0xBF,
        byte - 0xE0⟩ := by
  by_cases first : byte = 0xE0
  · subst first
    rfl
  by_cases surrogates : byte = 0xED
  · subst surrogates
    rfl
  rw [ofByte?, if_neg (by omega), if_neg (by omega), if_neg (by omega), if_neg first,
    if_neg surrogates, if_pos high, if_neg first, if_neg surrogates]

/-- The byte behind 0xF0 is so great that the form is not overlong, and the one behind 0xF4 so small
that the code is at most U+10FFFF. -/
theorem Lead.ofByte?_four {byte : Nat} (low : 0xF0 ≤ byte) (high : byte < 0xF5) :
    Lead.ofByte? byte =
      some ⟨3, if byte = 0xF0 then 0x90 else 0x80, if byte = 0xF4 then 0x8F else 0xBF,
        byte - 0xF0⟩ := by
  by_cases first : byte = 0xF0
  · subst first
    rfl
  by_cases last : byte = 0xF4
  · subst last
    rfl
  rw [ofByte?, if_neg (by omega), if_neg (by omega), if_neg (by omega), if_neg (by omega),
    if_neg (by omega), if_neg (by omega), if_neg first, if_pos (by omega), if_neg first,
    if_neg last]

/-- No other byte begins a character. -/
theorem Lead.ofByte?_other {byte : Nat}
    (other : 0x80 ≤ byte ∧ byte < 0xC2 ∨ 0xF5 ≤ byte) : Lead.ofByte? byte = none := by
  rw [ofByte?, if_neg (by omega)]
  rcases other with ⟨low, high⟩ | low
  · exact if_pos high
  · rw [if_neg (by omega), if_neg (by omega), if_neg (by omega), if_neg (by omega),
      if_neg (by omega), if_neg (by omega), if_neg (by omega), if_neg (by omega)]

/-! ## Bytes that are owed -/

theorem gather_zero_eq_some_iff {low high bits : Nat} {bytes rest : List UInt8} {char : Char} :
    gather 0 low high bits bytes = (some char, rest) ↔ char = Char.ofNat bits ∧ bytes = rest := by
  simp [gather, eq_comm]

theorem gather_succ_eq_some_iff {owed low high bits : Nat} {bytes rest : List UInt8} {char : Char} :
    gather (owed + 1) low high bits bytes = (some char, rest) ↔
      ∃ byte tail, bytes = byte :: tail ∧ (low ≤ byte.toNat ∧ byte.toNat ≤ high) ∧
        gather owed 0x80 0xBF (bits * 64 + byte.toNat % 64) tail = (some char, rest) := by
  cases bytes with
  | nil => simp [gather]
  | cons byte tail =>
      by_cases fits : low ≤ byte.toNat ∧ byte.toNat ≤ high
      · rw [gather, if_pos fits]
        constructor
        · intro gathered
          exact ⟨byte, tail, rfl, fits, gathered⟩
        · rintro ⟨other, more, same, -, gathered⟩
          cases same
          exact gathered
      · simp only [gather, if_neg fits, Prod.mk.injEq, reduceCtorEq, false_and, false_iff]
        rintro ⟨other, more, same, fits_other, -⟩
        cases same
        exact fits fits_other

/-! ## Forms of characters -/

/-- The bytes of a character in each of the four forms, and the code that they stand for. -/
inductive IsForm : List UInt8 → Nat → Prop
  | one (byte : UInt8) : byte.toNat < 0x80 → IsForm [byte] byte.toNat
  | two (first second : UInt8) :
      0xC2 ≤ first.toNat → first.toNat < 0xE0 →
      0x80 ≤ second.toNat ∧ second.toNat ≤ 0xBF →
      IsForm [first, second] ((first.toNat - 0xC0) * 64 + second.toNat % 64)
  | three (first second third : UInt8) :
      0xE0 ≤ first.toNat → first.toNat < 0xF0 →
      (if first.toNat = 0xE0 then 0xA0 else 0x80) ≤ second.toNat ∧
        second.toNat ≤ (if first.toNat = 0xED then 0x9F else 0xBF) →
      0x80 ≤ third.toNat ∧ third.toNat ≤ 0xBF →
      IsForm [first, second, third]
        (((first.toNat - 0xE0) * 64 + second.toNat % 64) * 64 + third.toNat % 64)
  | four (first second third fourth : UInt8) :
      0xF0 ≤ first.toNat → first.toNat < 0xF5 →
      (if first.toNat = 0xF0 then 0x90 else 0x80) ≤ second.toNat ∧
        second.toNat ≤ (if first.toNat = 0xF4 then 0x8F else 0xBF) →
      0x80 ≤ third.toNat ∧ third.toNat ≤ 0xBF →
      0x80 ≤ fourth.toNat ∧ fourth.toNat ≤ 0xBF →
      IsForm [first, second, third, fourth]
        ((((first.toNat - 0xF0) * 64 + second.toNat % 64) * 64 + third.toNat % 64) * 64 +
          fourth.toNat % 64)

theorem toNat_ofNat {code : Nat} (valid : code.isValidChar) : (Char.ofNat code).toNat = code := by
  rw [Char.ofNat, dif_pos valid]
  rfl

theorem ofNat_eq (byte : UInt8) {number : Nat} (same : number = byte.toNat) :
    UInt8.ofNat number = byte := by
  rw [same, UInt8.ofNat_toNat]

/-- A form is the encoding of the character with its code. -/
theorem encodeChar_of_isForm {bytes : List UInt8} {code : Nat} (form : IsForm bytes code) :
    encodeChar (Char.ofNat code) = bytes := by
  cases form with
  | one byte high =>
      have valid : byte.toNat.isValidChar := Or.inl (by omega)
      simp only [encodeChar, toNat_ofNat valid]
      rw [if_pos high, UInt8.ofNat_toNat]
  | two first second low high owed =>
      have valid : ((first.toNat - 0xC0) * 64 + second.toNat % 64).isValidChar := Or.inl (by omega)
      simp only [encodeChar, toNat_ofNat valid]
      rw [if_neg (by omega), if_pos (by omega), ofNat_eq first (by omega),
        ofNat_eq second (by omega)]
  | three first second third low high owed last =>
      -- The bounds of the second byte keep the code from being too small and off the surrogates.
      generalize code_eq :
        ((first.toNat - 0xE0) * 64 + second.toNat % 64) * 64 + third.toNat % 64 = code
      have middle : 0x80 ≤ second.toNat ∧ second.toNat ≤ 0xBF ∧ 0x800 ≤ code ∧
          code.isValidChar := by
        rw [Nat.isValidChar]
        split at owed <;> split at owed <;> omega
      simp only [encodeChar, toNat_ofNat middle.2.2.2]
      rw [if_neg (by omega), if_neg (by omega), if_pos (by omega),
        ofNat_eq first (by omega), ofNat_eq second (by omega),
        ofNat_eq third (by omega)]
  | four first second third fourth low high owed next last =>
      generalize code_eq :
        (((first.toNat - 0xF0) * 64 + second.toNat % 64) * 64 + third.toNat % 64) * 64 +
          fourth.toNat % 64 = code
      have middle : 0x80 ≤ second.toNat ∧ second.toNat ≤ 0xBF ∧ 0x10000 ≤ code ∧
          code.isValidChar := by
        rw [Nat.isValidChar]
        split at owed <;> split at owed <;> omega
      simp only [encodeChar, toNat_ofNat middle.2.2.2]
      rw [if_neg (by omega), if_neg (by omega), if_neg (by omega),
        ofNat_eq first (by omega), ofNat_eq second (by omega),
        ofNat_eq third (by omega), ofNat_eq fourth (by omega)]

/-- The encoding of a character is a form of its code. -/
theorem isForm_encodeChar (char : Char) : IsForm (encodeChar char) char.toNat := by
  have valid : char.toNat.isValidChar := char.valid
  rw [Nat.isValidChar] at valid
  rw [encodeChar]
  generalize char.toNat = code at valid ⊢
  have number : ∀ {n : Nat}, n < 256 → (UInt8.ofNat n).toNat = n :=
    fun small => UInt8.toNat_ofNat_of_lt' small
  -- In each form the bits of the code have been cut into bytes, and are put together again.
  split_ifs with ascii two three
  · have byte := number (show code < 256 by omega)
    have form := IsForm.one (UInt8.ofNat code) (by omega)
    rwa [byte] at form
  · have first := number (show 0xC0 + code / 64 < 256 by omega)
    have second := number (show 0x80 + code % 64 < 256 by omega)
    have form := IsForm.two (UInt8.ofNat (0xC0 + code / 64))
      (UInt8.ofNat (0x80 + code % 64)) (by omega) (by omega) (by omega)
    rwa [first, second, show (0xC0 + code / 64 - 0xC0) * 64 + (0x80 + code % 64) % 64 = code by
      omega] at form
  · have first := number (show 0xE0 + code / 4096 < 256 by omega)
    have second := number (show 0x80 + code / 64 % 64 < 256 by omega)
    have third := number (show 0x80 + code % 64 < 256 by omega)
    have form := IsForm.three (UInt8.ofNat (0xE0 + code / 4096))
      (UInt8.ofNat (0x80 + code / 64 % 64)) (UInt8.ofNat (0x80 + code % 64))
      (by omega) (by omega) (by split <;> split <;> omega) (by omega)
    rwa [first, second, third, show ((0xE0 + code / 4096 - 0xE0) * 64 +
      (0x80 + code / 64 % 64) % 64) * 64 + (0x80 + code % 64) % 64 = code by omega] at form
  · have first := number (show 0xF0 + code / 262144 < 256 by omega)
    have second := number (show 0x80 + code / 4096 % 64 < 256 by omega)
    have third := number (show 0x80 + code / 64 % 64 < 256 by omega)
    have fourth := number (show 0x80 + code % 64 < 256 by omega)
    have form := IsForm.four (UInt8.ofNat (0xF0 + code / 262144))
      (UInt8.ofNat (0x80 + code / 4096 % 64))
      (UInt8.ofNat (0x80 + code / 64 % 64)) (UInt8.ofNat (0x80 + code % 64))
      (by omega) (by omega) (by split <;> split <;> omega) (by omega) (by omega)
    rwa [first, second, third, fourth, show (((0xF0 + code / 262144 - 0xF0) * 64 +
      (0x80 + code / 4096 % 64) % 64) * 64 + (0x80 + code / 64 % 64) % 64) * 64 +
      (0x80 + code % 64) % 64 = code by omega] at form

/-- Where a form stands in front, decoding takes its character. -/
theorem step_of_isForm {byte : UInt8} {tail : List UInt8} {code : Nat}
    (form : IsForm (byte :: tail) code) (rest : List UInt8) :
    step byte (tail ++ rest) = (some (Char.ofNat code), rest) := by
  cases form with
  | one _ high => simp [step, Lead.ofByte?_one high, gather]
  | two _ second low high owed => simp [step, Lead.ofByte?_two low high, gather, owed]
  | three _ second third low high owed last =>
      simp [step, Lead.ofByte?_three low high, gather, owed, last]
  | four _ second third fourth low high owed next last =>
      simp [step, Lead.ofByte?_four low high, gather, owed, next, last]

/-- Where decoding takes a character, a form of it stands in front. -/
theorem isForm_of_step {byte : UInt8} {bytes rest : List UInt8} {char : Char}
    (taken : step byte bytes = (some char, rest)) :
    ∃ tail code, bytes = tail ++ rest ∧ IsForm (byte :: tail) code ∧ char = Char.ofNat code := by
  rw [step] at taken
  by_cases one : byte.toNat < 0x80
  · rw [Lead.ofByte?_one one] at taken
    rcases gather_zero_eq_some_iff.mp taken with ⟨rfl, rfl⟩
    exact ⟨[], _, rfl, .one byte one, rfl⟩
  by_cases two : 0xC2 ≤ byte.toNat ∧ byte.toNat < 0xE0
  · rw [Lead.ofByte?_two two.1 two.2] at taken
    rcases gather_succ_eq_some_iff.mp taken with ⟨second, more, rfl, owed, taken⟩
    rcases gather_zero_eq_some_iff.mp taken with ⟨rfl, rfl⟩
    exact ⟨[second], _, rfl, .two byte second two.1 two.2 owed, rfl⟩
  by_cases three : 0xE0 ≤ byte.toNat ∧ byte.toNat < 0xF0
  · rw [Lead.ofByte?_three three.1 three.2] at taken
    rcases gather_succ_eq_some_iff.mp taken with ⟨second, more, rfl, owed, taken⟩
    rcases gather_succ_eq_some_iff.mp taken with ⟨third, more, rfl, last, taken⟩
    rcases gather_zero_eq_some_iff.mp taken with ⟨rfl, rfl⟩
    exact ⟨[second, third], _, rfl, .three byte second third three.1 three.2 owed last, rfl⟩
  by_cases four : 0xF0 ≤ byte.toNat ∧ byte.toNat < 0xF5
  · rw [Lead.ofByte?_four four.1 four.2] at taken
    rcases gather_succ_eq_some_iff.mp taken with ⟨second, more, rfl, owed, taken⟩
    rcases gather_succ_eq_some_iff.mp taken with ⟨third, more, rfl, next, taken⟩
    rcases gather_succ_eq_some_iff.mp taken with ⟨fourth, more, rfl, last, taken⟩
    rcases gather_zero_eq_some_iff.mp taken with ⟨rfl, rfl⟩
    exact ⟨[second, third, fourth], _, rfl,
      .four byte second third fourth four.1 four.2 owed next last, rfl⟩
  · rw [Lead.ofByte?_other (by omega)] at taken
    cases taken

/-- Decoding takes a character exactly where its encoding stands in front. -/
theorem step_eq_some_iff {byte : UInt8} {bytes rest : List UInt8} {char : Char} :
    step byte bytes = (some char, rest) ↔ byte :: bytes = encodeChar char ++ rest := by
  constructor
  · intro taken
    rcases isForm_of_step taken with ⟨tail, code, rfl, form, rfl⟩
    rw [encodeChar_of_isForm form, List.cons_append]
  · intro encoded
    have form := isForm_encodeChar char
    cases shape : encodeChar char with
    | nil =>
        rw [shape] at form
        cases form
    | cons first tail =>
        rw [shape, List.cons_append] at encoded
        cases encoded
        rw [shape] at form
        rw [step_of_isForm form, Char.ofNat_toNat]

theorem encodeChar_ne_nil (char : Char) : encodeChar char ≠ [] := by
  have form := isForm_encodeChar char
  intro empty
  rw [empty] at form
  cases form

/-- A zero byte belongs to U+0000 alone. -/
theorem zero_mem_encodeChar_iff {char : Char} : 0 ∈ encodeChar char ↔ char = '\x00' := by
  constructor
  · intro zero_mem
    have form := isForm_encodeChar char
    have char_eq := (Char.ofNat_toNat char).symm
    generalize encodeChar char = bytes at form zero_mem
    generalize char.toNat = code at form char_eq
    cases form with
    | one _ high =>
        rw [← List.mem_singleton.mp zero_mem] at char_eq
        exact char_eq
    | two _ _ low high owed =>
        simp only [List.mem_cons, List.not_mem_nil, or_false] at zero_mem
        rcases zero_mem with rfl | rfl <;> simp at low owed
    | three _ _ _ low high owed last =>
        simp only [List.mem_cons, List.not_mem_nil, or_false] at zero_mem
        rcases zero_mem with rfl | rfl | rfl
        · simp at low
        · split at owed <;> simp at owed
        · simp at last
    | four _ _ _ _ low high owed next last =>
        simp only [List.mem_cons, List.not_mem_nil, or_false] at zero_mem
        rcases zero_mem with rfl | rfl | rfl | rfl
        · simp at low
        · split at owed <;> simp at owed
        · simp at next
        · simp at last
  · rintro rfl
    decide

/-! ## Texts -/

theorem decodeOnto_of_step (fault read : List Char) {byte : UInt8} {bytes rest : List UInt8}
    {char : Char} (taken : step byte bytes = (some char, rest)) :
    decodeOnto fault read (byte :: bytes) = decodeOnto fault (char :: read) rest := by
  rw [decodeOnto]
  split <;> simp_all

/-- Encoded characters are read one by one. -/
theorem decodeOnto_flatMap (fault read chars : List Char) :
    decodeOnto fault read (chars.flatMap encodeChar) = read.reverse ++ chars := by
  induction chars generalizing read with
  | nil => simp [decodeOnto]
  | cons char chars ih =>
      cases encoded : encodeChar char with
      | nil => exact absurd encoded (encodeChar_ne_nil char)
      | cons byte tail =>
          have taken : step byte (tail ++ chars.flatMap encodeChar) =
              (some char, chars.flatMap encodeChar) := by
            rw [step_eq_some_iff, encoded, List.cons_append]
          rw [List.flatMap_cons, encoded, List.cons_append, decodeOnto_of_step fault read taken, ih]
          simp

theorem decodeLossy_encode (text : String) : decodeLossy (encode text) = text := by
  rw [decodeLossy, encode, decodeOnto_flatMap]
  exact String.ofList_toList

theorem step_suffix (byte : UInt8) (bytes : List UInt8) : (step byte bytes).2 <:+ bytes := by
  have gather_suffix : ∀ owed low high bits bytes, (gather owed low high bits bytes).2 <:+ bytes := by
    intro owed
    induction owed with
    | zero => simp [gather]
    | succ owed ih =>
        intro low high bits bytes
        cases bytes with
        | nil => simp [gather]
        | cons byte bytes =>
            rw [gather]
            split
            · exact (ih ..).trans (List.suffix_cons ..)
            · exact List.suffix_rfl
  rw [step]
  split
  · exact gather_suffix ..
  · exact List.suffix_rfl

/-- A character that is read was read before, stands for a faulty run, or has its bytes there. -/
theorem of_mem_decodeOnto {fault read : List Char} {bytes : List UInt8} {char : Char}
    (char_mem : char ∈ decodeOnto fault read bytes) :
    char ∈ read ∨ char ∈ fault ∨ encodeChar char ⊆ bytes := by
  fun_induction decodeOnto fault read bytes with
  | case1 read => exact Or.inl (List.mem_reverse.mp char_mem)
  | case2 read byte bytes other rest taken ih =>
      have encoded := step_eq_some_iff.mp taken
      rcases ih char_mem with before | is_fault | there
      · rcases List.mem_cons.mp before with rfl | before
        · refine Or.inr (Or.inr ?_)
          rw [encoded]
          exact List.subset_append_left ..
        · exact Or.inl before
      · exact Or.inr (Or.inl is_fault)
      · refine Or.inr (Or.inr ?_)
        rw [encoded]
        exact List.Subset.trans there (List.subset_append_right ..)
  | case3 read byte bytes rest taken ih =>
      have left : rest <:+ bytes := by
        have suffix := step_suffix byte bytes
        rwa [taken] at suffix
      rcases ih char_mem with before | is_fault | there
      · rcases List.mem_append.mp before with is_fault | before
        · exact Or.inr (Or.inl is_fault)
        · exact Or.inl before
      · exact Or.inr (Or.inl is_fault)
      · exact Or.inr (Or.inr (List.Subset.trans there (List.subset_cons_of_subset _ left.subset)))

theorem mem_decodeOnto_of_mem {fault read : List Char} {char : Char} (char_mem : char ∈ read)
    (bytes : List UInt8) : char ∈ decodeOnto fault read bytes := by
  fun_induction decodeOnto fault read bytes with
  | case1 read => exact List.mem_reverse.mpr char_mem
  | case2 read byte bytes other rest taken ih => exact ih (List.mem_cons_of_mem _ char_mem)
  | case3 read byte bytes rest taken ih => exact ih (List.mem_append_right _ char_mem)

/-- Without a faulty run, what is read is what was encoded. -/
theorem exists_flatMap_of_decodeOnto {missing : Char} {read : List Char} {bytes : List UInt8}
    (faultless : missing ∉ decodeOnto [missing] read bytes) :
    ∃ chars, bytes = chars.flatMap encodeChar ∧
      decodeOnto [missing] read bytes = read.reverse ++ chars := by
  fun_induction decodeOnto [missing] read bytes with
  | case1 read => exact ⟨[], rfl, by simp⟩
  | case2 read byte bytes char rest taken ih =>
      rcases ih faultless with ⟨chars, encoded, decoded⟩
      refine ⟨char :: chars, ?_, ?_⟩
      · rw [step_eq_some_iff.mp taken, encoded, List.flatMap_cons]
      · rw [decoded]
        simp
  | case3 read byte bytes rest taken ih =>
      exact absurd (mem_decodeOnto_of_mem (by simp) rest) faultless

/-- A text without U+FFFD is read from its own encoding only. -/
theorem decodeLossy_eq_iff {text : String} (faultless : '\uFFFD' ∉ text.toList)
    {bytes : List UInt8} : decodeLossy bytes = text ↔ bytes = encode text := by
  constructor
  · rintro rfl
    rw [decodeLossy, String.toList_ofList] at faultless
    rcases exists_flatMap_of_decodeOnto faultless with ⟨chars, encoded, decoded⟩
    rw [decodeLossy, encode, String.toList_ofList, decoded, encoded]
    rfl
  · rintro rfl
    exact decodeLossy_encode text

/-! ## Zero bytes -/

/-- A text up to its first U+0000. -/
def untilZero (text : String) : String :=
  String.ofList (text.toList.takeWhile (· ≠ '\x00'))

/-- A text without U+0000 is all there is before its first. -/
theorem untilZero_eq_self {text : String} (zeroless : '\x00' ∉ text.toList) :
    untilZero text = text := by
  have all : ∀ char ∈ text.toList, decide (char ≠ '\x00') = true := by
    rintro char char_mem
    rw [decide_eq_true_eq]
    rintro rfl
    exact zeroless char_mem
  rw [untilZero, List.takeWhile_eq_self_iff.mpr all]
  exact String.ofList_toList

/-- The bytes before the first zero byte are those of the text before its first U+0000. -/
theorem takeWhile_encode (text : String) (rest : List UInt8) :
    (encode text ++ 0 :: rest).takeWhile (· ≠ 0) = encode (untilZero text) := by
  rw [encode, encode, untilZero, String.toList_ofList]
  induction text.toList with
  | nil => simp
  | cons char chars ih =>
      by_cases zero : char = '\x00'
      · subst zero
        simp [show encodeChar '\x00' = [0] by decide]
      · have zeroless : ∀ byte ∈ encodeChar char, decide (byte ≠ 0) = true := by
          intro byte byte_mem
          rw [decide_eq_true_eq]
          rintro rfl
          exact zero (zero_mem_encodeChar_iff.mp byte_mem)
        rw [List.flatMap_cons, List.append_assoc, List.takeWhile_append_of_pos zeroless, ih,
          List.takeWhile_cons_of_pos (by simpa using zero), List.flatMap_cons]

/-- No U+0000 is read from bytes of which none is zero. -/
theorem zero_notMem_decodeLossy {bytes : List UInt8} (zeroless : 0 ∉ bytes) :
    '\x00' ∉ (decodeLossy bytes).toList := by
  rw [decodeLossy, String.toList_ofList]
  intro zero_mem
  rcases of_mem_decodeOnto zero_mem with before | is_fault | there
  · cases before
  · simp at is_fault
  · exact zeroless (there (zero_mem_encodeChar_iff.mpr rfl))

end LogRelay.Utf8
