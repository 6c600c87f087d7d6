import LogRelay.Text.Blank

/-!
# Decimal digits

The digits zero to nine in every script of Unicode 14.0. Each script has its ten digits in a row, so
the zeros tell all.
-/

namespace LogRelay.Text

/-- The codes of the zeros, in ascending order. -/
def zeroCodes : Array Nat :=
  #[
    48, 1632, 1776, 1984, 2406, 2534, 2662, 2790, 2918, 3046, 3174, 3302, 3430, 3558, 3664,
    3792, 3872, 4160, 4240, 6112, 6160, 6470, 6608, 6784, 6800, 6992, 7088, 7232, 7248, 42528,
    43216, 43264, 43472, 43504, 43600, 44016, 65296, 66720, 68912, 69734, 69872, 69942, 70096,
    70384, 70736, 70864, 71248, 71360, 71472, 71904, 72016, 72784, 73040, 73120, 92768, 92864,
    93008, 120782, 120792, 120802, 120812, 120822, 123200, 123632, 125264, 130032]

/-- The value of a decimal digit of any script. -/
def digitValue? (char : Char) : Option Nat :=
  let code := char.toNat
  if code < 128 then (if 48 ≤ code && code ≤ 57 then some (code - 48) else none)
  else (zeroCodes.find? fun first => first ≤ code && code < first + 10).map (code - ·)

/-- Whether a character is a decimal digit of any script. -/
def isDigit (char : Char) : Bool :=
  (digitValue? char).isSome

/-- A text as a reader of numbers sees it. Blanks and digits beyond ASCII become plain ones, and a
character that is neither ends what can be read, for which a question mark stands. -/
def plainNumeral : List Char → List Char
  | [] => []
  | char :: chars =>
      if char.toNat < 127 then char :: plainNumeral chars
      else if isBlank char then ' ' :: plainNumeral chars
      else match digitValue? char with
        | some digit => Char.ofNat (48 + digit) :: plainNumeral chars
        | none => ['?']

end LogRelay.Text
