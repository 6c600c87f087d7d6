import LogRelay.Number.Double
import LogRelay.Text.Digit

/-!
# Numbers in texts

Reading whole numbers and doubles from text. Blanks may surround a number, digits may come from any
script, and a low line may stand between two digits.
-/

namespace LogRelay.Numeral

/-- The most digits that a whole number is read from. -/
def digitLimit : Nat := 4300

/-- The digits of a text in which a single low line may stand between two digits. -/
def groupedDigits? (afterDigit : Bool) : List Char → Option (List Nat)
  | [] => if afterDigit then some [] else none
  | char :: chars =>
      if char = '_' then
        if afterDigit then groupedDigits? false chars else none
      else if char.isDigit then
        (groupedDigits? true chars).map ((char.toNat - 48) :: ·)
      else none

/-- The number that a sequence of digits stands for. -/
def ofDigits (digits : List Nat) : Nat :=
  digits.foldl (fun number digit => 10 * number + digit) 0

/-- A sign, if the text begins with one, and the text after it. -/
def splitSign : List Char → Bool × List Char
  | '-' :: chars => (true, chars)
  | '+' :: chars => (false, chars)
  | chars => (false, chars)

/-- The whole number that a text stands for. -/
def readInt? (text : String) : Option Int := do
  let (negative, chars) := splitSign (Text.trim Text.isPlainBlank (Text.plainNumeral text.toList))
  let digits ← groupedDigits? false chars
  if digitLimit < digits.length then none
  let number := ofDigits digits
  pure (if negative then -(number : Int) else number)

/-- The value of a digit below a base. -/
def digitBelow? (base : Nat) (char : Char) : Option Nat :=
  let value :=
    if char.isDigit then char.toNat - 48
    else if char.isLower then char.toNat - 87
    else if char.isUpper then char.toNat - 55
    else base
  if value < base then some value else none

/-- Removes a mark for a base from the beginning of a text. -/
def dropBaseMark (mark : Char) : List Char → List Char
  | '0' :: letter :: chars => if letter.toLower = mark then chars else '0' :: letter :: chars
  | chars => chars

/-- The whole number that a text without low lines stands for in a base, of which a mark may come
first. -/
def readBase? (base : Nat) (mark : Char) (text : List Char) : Option Int := do
  let (negative, chars) := splitSign (Text.trim Text.isPlainBlank (Text.plainNumeral text))
  let digits ← (dropBaseMark mark chars).mapM (digitBelow? base)
  if digits.isEmpty then none
  let number := digits.foldl (fun number digit => base * number + digit) 0
  pure (if negative then -(number : Int) else number)

/-- Removes the low lines of a text, each of which must stand between two digits. -/
def joinGroups? (afterDigit : Bool) : List Char → Option (List Char)
  | [] => some []
  | '_' :: char :: chars =>
      if afterDigit && char.isDigit then (joinGroups? true chars).map (char :: ·) else none
  | ['_'] => none
  | char :: chars => (joinGroups? char.isDigit chars).map (char :: ·)

/-- A decimal with a power of ten: its digits, how many of them follow the point, and the power. -/
structure Scientific where
  digits : List Nat
  places : Nat
  power : Int

/-- The power of ten at the end of a decimal, zero when there is none. -/
def readPower? : List Char → Option Int
  | [] => some 0
  | mark :: chars =>
      if mark = 'e' ∨ mark = 'E' then
        let (negative, digits) := splitSign chars
        if !digits.isEmpty && digits.all Char.isDigit then
          let power := ofDigits (digits.map fun digit => digit.toNat - 48)
          some (if negative then -(power : Int) else power)
        else none
      else none

/-- The parts of a decimal, of which at least one digit before or after the point must be there. -/
def readScientific? (chars : List Char) : Option Scientific := do
  let before := chars.takeWhile Char.isDigit
  let afterWhole := chars.dropWhile Char.isDigit
  let (after, rest) := match afterWhole with
    | '.' :: fraction => (fraction.takeWhile Char.isDigit, fraction.dropWhile Char.isDigit)
    | _ => ([], afterWhole)
  if before.isEmpty && after.isEmpty then none
  let power ← readPower? rest
  pure ⟨(before ++ after).map fun digit => digit.toNat - 48, after.length, power⟩

/-- The double nearest to a decimal. A power of ten far outside the range of doubles is answered
without computing it. -/
def Scientific.toDouble (decimal : Scientific) (negative : Bool) : Double :=
  let digits := decimal.digits.dropWhile (· == 0)
  let shift := decimal.power - decimal.places
  let whole := shift + digits.length
  if digits.isEmpty then Double.zero negative
  else if 400 < whole then Double.infinity negative
  else if whole < -400 then Double.zero negative
  else if 0 ≤ shift then Double.ofRatio negative (ofDigits digits * Nat.pow 10 shift.toNat) 1
  else Double.ofRatio negative (ofDigits digits) (Nat.pow 10 (-shift).toNat)

/-- The double that a text stands for. -/
def readDouble? (text : String) : Option Double := do
  let chars ← joinGroups? false (Text.trim Text.isPlainBlank (Text.plainNumeral text.toList))
  let (negative, unsigned) := splitSign chars
  let word := String.ofList (unsigned.map Char.toLower)
  if word = "inf" ∨ word = "infinity" then pure (Double.infinity negative)
  else if word = "nan" then pure Double.nan
  else
    let decimal ← readScientific? unsigned
    pure (decimal.toDouble negative)

end LogRelay.Numeral
