import LogRelay.Render.Stamp
import Mathlib.Data.List.Basic

/-!
# Decimal numbers in texts

A number of fixed width has its last digits, zeros in front, and a number of any width has all its digits
and no zero in front. Numbers are read back from both forms, wherever they stand in a text
(`digits?_fixed`, `number?_repr`). Texts that begin with numbers of one width are ordered as the numbers,
and as what follows where the numbers are the same (`fixed_append_lt_iff`).
-/

namespace LogRelay.Decimal

/-- The last so many digits of a number. -/
def fixed : (width number : Nat) → List Char
  | 0, _ => []
  | width + 1, number => fixed width (number / 10) ++ [Nat.digitChar (number % 10)]

/-- How many numbers there are of a width. -/
def bound : (width : Nat) → Nat
  | 0 => 1
  | width + 1 => 10 * bound width

/-! ## Reading -/

/-- The text behind a certain text, if it begins with that. -/
def skip? (expected : String) (text : List Char) : Option (List Char) :=
  expected.toList.isPrefixOf? text

/-- The number in the first so many characters, which all have to be digits, and the text behind. -/
def digits? (width : Nat) (text : List Char) : Option (Nat × List Char) :=
  if (text.take width).length = width ∧ (text.take width).all Char.isDigit then
    some (Nat.ofDigitChars 10 (text.take width) 0, text.drop width)
  else none

/-- The number in all digits that a text begins with, and the text behind. There has to be a digit, and
a zero is the only digit or not the first. -/
def number? (text : List Char) : Option (Nat × List Char) :=
  let digits := text.takeWhile Char.isDigit
  if digits = [] ∨ (digits.head? = some '0' ∧ digits ≠ ['0']) then none
  else some (Nat.ofDigitChars 10 digits 0, text.dropWhile Char.isDigit)

@[simp]
theorem skip?_append (expected : String) (text : List Char) :
    skip? expected (expected.toList ++ text) = some text :=
  List.isPrefixOf?_eq_some_iff_append_eq.mpr rfl

@[simp]
theorem length_fixed (width number : Nat) : (fixed width number).length = width := by
  induction width generalizing number with
  | zero => rfl
  | succ width ih => simp [fixed, ih]

theorem isDigit_of_mem_fixed {width number : Nat} {char : Char}
    (char_mem : char ∈ fixed width number) : char.isDigit = true := by
  induction width generalizing number with
  | zero => simp [fixed] at char_mem
  | succ width ih =>
      rcases List.mem_append.mp char_mem with earlier | last
      · exact ih earlier
      · rw [List.mem_singleton.mp last, Nat.isDigit_digitChar, decide_eq_true_eq]
        exact Nat.mod_lt _ (by decide)

theorem ofDigitChars_fixed {width number : Nat} (small : number < bound width) :
    Nat.ofDigitChars 10 (fixed width number) 0 = number := by
  induction width generalizing number with
  | zero =>
      simp only [bound] at small
      simp [fixed]
      omega
  | succ width ih =>
      simp only [bound] at small
      rw [fixed, Nat.ofDigitChars_append, ih (by omega),
        Nat.ofDigitChars_cons_digitChar_of_lt_ten (Nat.mod_lt _ (by decide)), Nat.ofDigitChars_nil]
      omega

theorem digits?_fixed {width number : Nat} (small : number < bound width) (text : List Char) :
    digits? width (fixed width number ++ text) = some (number, text) := by
  have front : (fixed width number ++ text).take width = fixed width number :=
    List.take_left' (length_fixed ..)
  have behind : (fixed width number ++ text).drop width = text :=
    List.drop_left' (length_fixed ..)
  have digits : (fixed width number).all Char.isDigit = true :=
    List.all_eq_true.mpr fun char => isDigit_of_mem_fixed
  rw [digits?, front, behind, if_pos ⟨length_fixed .., digits⟩, ofDigitChars_fixed small]

/-- The digits of a number begin with a zero for zero alone. -/
theorem head?_toDigits {number : Nat} (zero : (Nat.toDigits 10 number).head? = some '0') :
    number = 0 := by
  induction number using Nat.strongRecOn with
  | ind number ih =>
      rcases Nat.lt_or_ge number 10 with small | large
      · rw [Nat.toDigits_of_lt_base small] at zero
        simpa using zero
      · have quotient := ih (number / 10) (by omega)
        rw [Nat.toDigits_of_base_le (by decide) large] at zero
        cases front : Nat.toDigits 10 (number / 10) with
        | nil => exact absurd front Nat.toDigits_ne_nil
        | cons char chars =>
            rw [front] at zero quotient
            have none_left := quotient zero
            omega

theorem number?_repr (number : Nat) {text : List Char}
    (ended : ∀ char ∈ text.head?, char.isDigit = false) :
    number? (number.repr.toList ++ text) = some (number, text) := by
  have digits : ∀ char ∈ Nat.toDigits 10 number, char.isDigit = true :=
    fun char => Nat.isDigit_of_mem_toDigits (by decide) (by decide)
  have nothing : text.takeWhile Char.isDigit = [] ∧ text.dropWhile Char.isDigit = text := by
    cases text with
    | nil => exact ⟨rfl, rfl⟩
    | cons char text => simp [ended char rfl]
  rw [number?, Nat.toList_repr, List.takeWhile_append_of_pos digits, List.dropWhile_append_of_pos digits,
    nothing.1, nothing.2, List.append_nil, if_neg, Nat.ofDigitChars_ten_toDigits]
  rintro (empty | ⟨zero, others⟩)
  · exact Nat.toDigits_ne_nil empty
  · rw [head?_toDigits zero] at others
    exact others rfl

/-! ## Padding -/

theorem fixed_zero (width : Nat) : fixed width 0 = List.replicate width '0' := by
  induction width with
  | zero => rfl
  | succ width ih => rw [fixed, Nat.zero_div, ih, List.replicate_succ']; rfl

theorem toDigits_padded {width number : Nat} (some_width : 0 < width) (small : number < bound width) :
    List.replicate (width - (Nat.toDigits 10 number).length) '0' ++ Nat.toDigits 10 number =
      fixed width number := by
  induction width generalizing number with
  | zero => cases some_width
  | succ width ih =>
      rw [bound] at small
      rcases Nat.lt_or_ge number 10 with one | more
      · rw [Nat.toDigits_of_lt_base one, fixed, Nat.div_eq_of_lt one, Nat.mod_eq_of_lt one, fixed_zero]
        rfl
      · have wide : 0 < width := by
          cases width with
          | zero =>
              rw [bound] at small
              omega
          | succ width => exact Nat.succ_pos width
        rw [Nat.toDigits_of_base_le (by decide) more, fixed, ← ih wide (by omega), List.length_append,
          List.length_singleton, Nat.add_sub_add_right, List.append_assoc]

/-- A number of a width that has no zero in front is written with all its digits. -/
theorem toDigits_eq_fixed {width number : Nat} (least : bound width ≤ number)
    (small : number < bound (width + 1)) : Nat.toDigits 10 number = fixed (width + 1) number := by
  induction width generalizing number with
  | zero =>
      simp only [bound] at least small
      rw [Nat.toDigits_of_lt_base (by omega), fixed, Nat.mod_eq_of_lt (by omega)]
      rfl
  | succ width ih =>
      simp only [bound] at least small ih
      have positive : 0 < bound width := by
        by_contra none_left
        omega
      rw [Nat.toDigits_of_base_le (by decide) (by omega), ih (by omega) (by omega)]
      rfl

theorem toList_pushn (text : String) (char : Char) (count : Nat) :
    (text.pushn char count).toList = text.toList ++ List.replicate count char := by
  rw [String.pushn_eq_repeat_push]
  induction count with
  | zero => simp [Nat.repeat]
  | succ count ih => simp [Nat.repeat, ih, List.replicate_succ']

theorem toList_zeroPadded {width number : Nat} (some_width : 0 < width) (small : number < bound width) :
    (Stamp.zeroPadded width number).toList = fixed width number := by
  rw [← toDigits_padded some_width small, Stamp.zeroPadded]
  simp [toList_pushn, ← String.length_toList]

/-! ## Order -/

theorem digitChar_lt_iff {first second : Nat} (first_small : first < 10) (second_small : second < 10) :
    Nat.digitChar first < Nat.digitChar second ↔ first < second := by
  rw [Char.lt_def, UInt32.lt_iff_toNat_lt]
  show (Nat.digitChar first).toNat < (Nat.digitChar second).toNat ↔ _
  rw [Nat.toNat_digitChar_of_lt_ten first_small, Nat.toNat_digitChar_of_lt_ten second_small]
  omega

theorem digitChar_inj {first second : Nat} (first_small : first < 10) (second_small : second < 10) :
    Nat.digitChar first = Nat.digitChar second ↔ first = second := by
  rw [← Char.toNat_inj, Nat.toNat_digitChar_of_lt_ten first_small,
    Nat.toNat_digitChar_of_lt_ten second_small]
  omega

theorem fixed_append_lt_iff {width first second : Nat} (first_small : first < bound width)
    (second_small : second < bound width) (text other : List Char) :
    fixed width first ++ text < fixed width second ++ other ↔
      first < second ∨ first = second ∧ text < other := by
  induction width generalizing first second text other with
  | zero =>
      simp only [bound] at first_small second_small
      have same : first = second := by omega
      simp [fixed, same]
  | succ width ih =>
      rw [bound] at first_small second_small
      rw [fixed, fixed, List.append_assoc, List.append_assoc, ih (by omega) (by omega),
        List.singleton_append, List.singleton_append, List.cons_lt_cons_iff,
        digitChar_lt_iff (Nat.mod_lt _ (by decide)) (Nat.mod_lt _ (by decide)),
        digitChar_inj (Nat.mod_lt _ (by decide)) (Nat.mod_lt _ (by decide))]
      by_cases later : text < other
      · simp only [later, and_true]
        omega
      · simp only [later, and_false, or_false]
        omega

end LogRelay.Decimal
