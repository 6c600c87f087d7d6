import LogRelay.Number.Numeral
import LogRelay.Yaml.Fault

/-!
# Numbers in documents

A document writes whole numbers in four bases, with low lines between the digits, and numbers in base
sixty with colons between the places, as hours, minutes and seconds are written. A number with a point
may have a power of ten with a sign.

The forms of numbers decide what a plain scalar is. A tag can make a number of any text, so reading is
more lenient than the forms are.
-/

namespace LogRelay.Yaml

/-- Removes a sign from the beginning. -/
def unsigned : List Char → List Char
  | '-' :: chars => chars
  | '+' :: chars => chars
  | chars => chars

/-- Whether a character is a digit or a low line. -/
def isDigitOrLine (char : Char) : Bool := char.isDigit || char == '_'

/-- Whether a text is one or more characters of a class. -/
def isRun (test : Char → Bool) (chars : List Char) : Bool :=
  !chars.isEmpty && chars.all test

/-- Whether a text is a digit with digits and low lines behind it. -/
def isDecimalRun : List Char → Bool
  | char :: chars => char.isDigit && chars.all isDigitOrLine
  | [] => false

/-- Whether a text is a place of a number in base sixty. -/
def isSixtieth : List Char → Bool
  | [ones] => ones.isDigit
  | [tens, ones] => '0' ≤ tens && tens ≤ '5' && ones.isDigit
  | _ => false

/-- The parts of a text between colons. -/
def splitColons (chars : List Char) : List (List Char) :=
  chars.foldr (fun char parts => match parts with
    | part :: others => if char == ':' then [] :: part :: others else (char :: part) :: others
    | [] => [[char]]) [[]]

/-- Whether a text is a whole number. -/
def isInteger (chars : List Char) : Bool :=
  match unsigned chars with
  | ['0'] => true
  | '0' :: 'b' :: digits => isRun (fun char => char == '0' || char == '1' || char == '_') digits
  | '0' :: 'x' :: digits =>
      isRun (fun char => isDigitOrLine char || ('a' ≤ char && char ≤ 'f') ||
        ('A' ≤ char && char ≤ 'F')) digits
  | '0' :: digits => isRun (fun char => ('0' ≤ char && char ≤ '7') || char == '_') digits
  | digits =>
      match splitColons digits with
      | first :: places => isDecimalRun first && places.all isSixtieth
      | [] => false

/-- Whether a text is a power of ten with a sign, or nothing. -/
def isPower : List Char → Bool
  | [] => true
  | mark :: sign :: digits =>
      (mark == 'e' || mark == 'E') && (sign == '-' || sign == '+') && isRun Char.isDigit digits
  | _ => false

/-- Whether a text is a point with digits, low lines and perhaps a power behind it. -/
def isFraction (withPower : Bool) : List Char → Bool
  | '.' :: chars =>
      let rest := chars.dropWhile isDigitOrLine
      rest.isEmpty || (withPower && isPower rest)
  | _ => false

/-- Whether a text is a number with a point, an infinity or no number. -/
def isDouble (chars : List Char) : Bool :=
  let digits := unsigned chars
  let word := String.ofList digits
  let whole := digits.takeWhile fun char => char != '.'
  let fraction := digits.dropWhile fun char => char != '.'
  (isDecimalRun whole && isFraction true fraction) ||
    (match chars with
      | '.' :: first :: _ => first.isDigit && isFraction true chars
      | _ => false) ||
    (match splitColons whole with
      | first :: place :: places =>
          isDecimalRun first && (place :: places).all isSixtieth && isFraction false fraction
      | _ => false) ||
    word == ".inf" || word == ".Inf" || word == ".INF" ||
    (digits.length == chars.length && (word == ".nan" || word == ".NaN" || word == ".NAN"))

/-- A text without its low lines, and whether a sign makes it negative. -/
def signed (chars : List Char) : Except Fault (Bool × List Char) :=
  match chars.filter (· != '_') with
  | [] => .error .emptyNumber
  | '-' :: digits => .ok (true, digits)
  | '+' :: digits => .ok (false, digits)
  | digits => .ok (false, digits)

/-- The number of some digits in a base. -/
def wholeOf (read : Option Int) : Except Fault Int :=
  match read with
  | some number => .ok number
  | none => .error .notNumber

/-- The whole number that a text stands for. -/
def readInteger (text : String) : Except Fault Int := do
  let (negative, digits) ← signed text.toList
  let number ← match digits with
    | [] => throw .emptyNumber
    | ['0'] => pure 0
    | '0' :: 'b' :: digits => wholeOf (Numeral.readBase? 2 'b' digits)
    | '0' :: 'x' :: digits => wholeOf (Numeral.readBase? 16 'x' digits)
    | '0' :: others => wholeOf (Numeral.readBase? 8 'o' ('0' :: others))
    | digits => do
        let places ← (splitColons digits).mapM fun part =>
          wholeOf (Numeral.readInt? (String.ofList part))
        pure (places.foldl (fun number place => 60 * number + place) 0)
  pure (if negative then -number else number)

/-- The sum of the places of a number in base sixty, the last place first. -/
def sumSixtieths (places : List Double) : Except Fault Double := do
  let (sum, _) ← places.foldlM (fun ((sum, weight) : Double × Nat) place =>
    match Double.ofInt? weight with
    | some factor => pure (sum.plus (place.times factor), 60 * weight)
    | none => throw .unbounded) (Double.zero false, 1)
  pure sum

/-- The number that a text stands for. -/
def readDouble (text : String) : Except Fault Double := do
  let (negative, digits) ← signed (text.toList.map Char.toLower)
  let number ← match digits with
    | ['.', 'i', 'n', 'f'] => pure (Double.infinity false)
    | ['.', 'n', 'a', 'n'] => pure Double.nan
    | digits => do
        let places ← (splitColons digits).mapM fun part =>
          match Numeral.readDouble? (String.ofList part) with
          | some place => pure place
          | none => throw .notNumber
        match places with
        | [place] => pure place
        | places => sumSixtieths places.reverse
  pure (if negative then number.negated else number)

end LogRelay.Yaml
