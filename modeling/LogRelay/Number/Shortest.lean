import LogRelay.Number.Double

/-!
# The shortest decimal text of a double

A double is written with the fewest digits that read back as the same double, and of two such texts
with the one nearer to its value. On the grid of decimals with a given number of digits only the two
neighbours of the value matter, so each grid takes two trials.
-/

namespace LogRelay.Double

/-- A positive decimal: its digits as one whole number, how many they are, and how many of them stand
before the point, a negative count for zeros that follow the point. -/
structure Decimal where
  digits : Nat
  count : Nat
  whole : Int

/-- How many decimal places a quotient has before its point, counted down from a guess that is not too
low. -/
def placesBelow (numerator denominator : Nat) : (guess : Nat) → Nat
  | 0 => 0
  | guess + 1 =>
      if Nat.pow 10 guess * denominator ≤ numerator then guess + 1
      else placesBelow numerator denominator guess

/-- How many zeros follow the point of a quotient below one before its first other digit, counted up
within a number of trials. -/
def leadingZeros (numerator denominator : Nat) : (trials : Nat) → Nat
  | 0 => 0
  | trials + 1 =>
      if denominator ≤ 10 * numerator then 0
      else leadingZeros (10 * numerator) denominator trials + 1

/-- How many digits of a positive quotient stand before its point, negative when zeros follow the
point. -/
def wholePlaces (numerator denominator : Nat) : Int :=
  if denominator ≤ numerator then placesBelow numerator denominator 400
  else -(leadingZeros numerator denominator 400 : Int)

/-- The value of a decimal as a quotient. -/
def Decimal.ratio (decimal : Decimal) : Nat × Nat :=
  let shift := decimal.whole - decimal.count
  if 0 ≤ shift then (decimal.digits * Nat.pow 10 shift.toNat, 1)
  else (decimal.digits, Nat.pow 10 (-shift).toNat)

/-- Whether a decimal reads back as the positive double with the given bits. -/
def Decimal.readsBackAs (decimal : Decimal) (bits : Nat) : Bool :=
  let (numerator, denominator) := decimal.ratio
  nearestBits numerator denominator == bits

/-- The neighbour of a quotient that reads back as a double, on the grid of a given number of digits.
Where both do, the nearer one, and the even one of two that are equally near. -/
def onGrid? (bits numerator denominator : Nat) (whole : Int) (count : Nat) : Option Decimal :=
  let shift := whole - count
  let scaledNumerator := if 0 ≤ shift then numerator else numerator * Nat.pow 10 (-shift).toNat
  let scaledDenominator := if 0 ≤ shift then denominator * Nat.pow 10 shift.toNat else denominator
  let below := scaledNumerator / scaledDenominator
  let lower : Decimal := ⟨below, count, whole⟩
  let upper : Decimal := ⟨below + 1, count, whole⟩
  match lower.readsBackAs bits, upper.readsBackAs bits with
  | false, false => none
  | true, false => some lower
  | false, true => some upper
  | true, true =>
      if roundHalfEven scaledNumerator scaledDenominator = below then some lower else some upper

/-- The first grid, from a number of digits on, with a decimal that reads back. Seventeen digits
always suffice. -/
def searchGrids (bits numerator denominator : Nat) (whole : Int) : (left count : Nat) → Decimal
  | 0, count => ⟨0, count, whole⟩
  | left + 1, count =>
      match onGrid? bits numerator denominator whole count with
      | some decimal => decimal
      | none => searchGrids bits numerator denominator whole left (count + 1)

/-- The shortest decimal of the absolute value of a finite double other than zero. -/
def shortest (double : Double) : Decimal :=
  let numerator := double.magnitude
  searchGrids (double.bits.toNat % signUnit) numerator unitsInOne
    (wholePlaces numerator unitsInOne) 17 1

/-- The digits of a decimal without the zeros at its end, and the number of digits before the point.
A decimal whose digits rounded up to the next power of ten has one place more. -/
def Decimal.significant (decimal : Decimal) : List Char × Int :=
  let written := (toString decimal.digits).toList
  let kept := (written.reverse.dropWhile (· == '0')).reverse
  (kept, decimal.whole + ((written.length : Int) - decimal.count))

/-- Digits with a point after so many of them, and zeros where there are no digits. -/
def positional (digits : List Char) (whole : Int) : String :=
  if whole ≤ 0 then
    "0." ++ String.ofList (List.replicate (-whole).toNat '0' ++ digits)
  else
    let places := whole.toNat
    let before := digits.take places ++ List.replicate (places - digits.length) '0'
    let after := digits.drop places
    String.ofList before ++ "." ++ (if after.isEmpty then "0" else String.ofList after)

/-- Digits with a point after the first and the power of ten, of at least two digits, after them. -/
def scientific (digits : List Char) (whole : Int) : String :=
  let power := whole - 1
  let mantissa := match digits with
    | [] => ""
    | [digit] => String.singleton digit
    | digit :: others => String.ofList (digit :: '.' :: others)
  let size := toString power.natAbs
  mantissa ++ "e" ++ (if power < 0 then "-" else "+") ++
    (if size.length < 2 then "0" ++ size else size)

/-- The text of a double. Sixteen places before the point are the most that are written out, and four
zeros after it, of which the first stands before the point. -/
def render (double : Double) : String :=
  if double.isNaN then "nan"
  else
    let sign := if double.negative then "-" else ""
    if double.isInfinite then sign ++ "inf"
    else if double.magnitude = 0 then sign ++ "0.0"
    else
      let (digits, whole) := double.shortest.significant
      sign ++ (if -4 < whole ∧ whole ≤ 16 then positional digits whole else scientific digits whole)

end LogRelay.Double
