/-!
# Double precision numbers

A double is its 64 bits: a sign, eleven exponent bits and 52 fraction bits. Every finite double is a
whole multiple of the smallest positive one, 2^-1074, so order, rounding and truncation are questions
about whole numbers and are answered exactly.
-/

namespace LogRelay

/-- A number of IEEE 754 double precision, told by its bits. -/
structure Double where
  bits : UInt64
  deriving DecidableEq, Inhabited, Repr

namespace Double

/-- The worth of the sign bit, 2^63. -/
def signUnit : Nat := 0x8000000000000000

/-- The worth of the lowest exponent bit, 2^52, which is how many fractions there are. -/
def exponentUnit : Nat := 0x10000000000000

/-- How many of the smallest positive doubles make one, 2^1074. -/
def unitsInOne : Nat := Nat.pow 2 1074

/-- Whether the sign bit is set, which negative zero has too. -/
def negative (double : Double) : Bool :=
  decide (signUnit ≤ double.bits.toNat)

/-- The exponent bits. -/
def exponentBits (double : Double) : Nat :=
  double.bits.toNat / exponentUnit % 2048

/-- The fraction bits. -/
def fractionBits (double : Double) : Nat :=
  double.bits.toNat % exponentUnit

/-- Whether the double is no number. -/
def isNaN (double : Double) : Bool :=
  double.exponentBits == 2047 && double.fractionBits != 0

/-- Whether the double is one of the two infinities. -/
def isInfinite (double : Double) : Bool :=
  double.exponentBits == 2047 && double.fractionBits == 0

/-- The absolute value as a multiple of 2^-1074. An infinity counts as the first power of two that no
double reaches. -/
def magnitude (double : Double) : Nat :=
  if double.exponentBits = 0 then double.fractionBits
  else (exponentUnit + double.fractionBits) * Nat.pow 2 (double.exponentBits - 1)

/-- The value as a multiple of 2^-1074. -/
def scaled (double : Double) : Int :=
  if double.negative then -(double.magnitude : Int) else double.magnitude

/-- Whether the first double is less than the second, which is never so for what is no number. -/
def less (left right : Double) : Bool :=
  !left.isNaN && !right.isNaN && decide (left.scaled < right.scaled)

/-- The bits of positive infinity, above those of every positive double. -/
def infinityBits : Nat :=
  2047 * exponentUnit

/-- Positive or negative infinity. -/
def infinity (negative : Bool) : Double :=
  ⟨UInt64.ofNat (infinityBits + if negative then signUnit else 0)⟩

/-- The value that stands for no number. -/
def nan : Double :=
  ⟨UInt64.ofNat (infinityBits + exponentUnit / 2)⟩

/-- The positive or negative zero. -/
def zero (negative : Bool) : Double :=
  ⟨if negative then 0x8000000000000000 else 0⟩

/-- The whole number nearest to a quotient, the even one of two that are equally near. -/
def roundHalfEven (numerator denominator : Nat) : Nat :=
  let quotient := numerator / denominator
  let twice := 2 * (numerator % denominator)
  if twice < denominator then quotient
  else if denominator < twice then quotient + 1
  else quotient + quotient % 2

/-- The bits of the double nearest to a quotient of whole numbers, without sign. Doubles of one
exponent are equally spaced and their bits are consecutive, so the rounded multiple of that spacing
and the exponent add up to the bits, also where rounding reaches the next exponent. -/
def nearestBits (numerator denominator : Nat) : Nat :=
  let units := numerator * unitsInOne
  let spacing := (units / denominator).log2 - 52
  spacing * exponentUnit + roundHalfEven units (denominator * Nat.pow 2 spacing)

/-- The double nearest to a quotient of whole numbers, an infinity when it is too great. -/
def ofRatio (negative : Bool) (numerator denominator : Nat) : Double :=
  let bits := min (nearestBits numerator denominator) infinityBits
  ⟨UInt64.ofNat (bits + if negative then signUnit else 0)⟩

/-- The double nearest to a whole number, and none for one beyond the greatest double. -/
def ofInt? (number : Int) : Option Double :=
  if nearestBits number.natAbs 1 < infinityBits then
    some (ofRatio (decide (number < 0)) number.natAbs 1)
  else none

/-- The whole part, for a double that is finite. -/
def wholePart (double : Double) : Int :=
  let whole : Nat := double.magnitude / unitsInOne
  if double.negative then -(whole : Int) else whole

/-- The product of two doubles, rounded once. -/
def times (left right : Double) : Double :=
  let negative := left.negative != right.negative
  if left.isNaN || right.isNaN then nan
  else if left.isInfinite || right.isInfinite then
    if left.magnitude = 0 ∨ right.magnitude = 0 then nan else infinity negative
  else ofRatio negative (left.magnitude * right.magnitude) (unitsInOne * unitsInOne)

/-- The sum of two doubles, rounded once. -/
def plus (left right : Double) : Double :=
  if left.isNaN || right.isNaN then nan
  else if left.isInfinite then
    if right.isInfinite && left.negative != right.negative then nan else left
  else if right.isInfinite then right
  else
    let sum := left.scaled + right.scaled
    if sum = 0 then zero (left.negative && right.negative)
    else ofRatio (decide (sum < 0)) sum.natAbs unitsInOne

/-- The double with the opposite sign. -/
def negated (double : Double) : Double :=
  ⟨double.bits ^^^ 0x8000000000000000⟩

/-- One thousandth. -/
def thousandth : Double :=
  ofRatio false 1 1000

/-- The number one. -/
def one : Double :=
  ofRatio false 1 1

end Double

end LogRelay
