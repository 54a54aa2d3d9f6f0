import ListQuery.Number.Power

/-! Floating-point numbers of 64 bits: a sign, eleven bits of exponent and fifty-two bits of
fraction, with one infinity of each sign and values that are no number. All arithmetic is exact
and then rounded to the nearest number, ties to the even one. -/

namespace ListQuery

/-- A floating-point number, given by its bits. Two are equal as data when all bits agree;
the numeric order is `Binary64.compare?`. -/
structure Binary64 where
  bits : UInt64
deriving DecidableEq, Inhabited

namespace Binary64

/-- The sign bit. -/
def negative (x : Binary64) : Bool :=
  twoTo 63 ≤ x.bits.toNat

/-- All bits but the sign. Magnitudes are ordered as the absolute values they stand for. -/
def magnitude (x : Binary64) : Nat :=
  x.bits.toNat % twoTo 63

/-- The magnitude of the infinities. -/
def infiniteMagnitude : Nat := 2047 * twoTo 52

/-- The number with a sign and a magnitude. -/
def ofParts (negative : Bool) (magnitude : Nat) : Binary64 :=
  ⟨UInt64.ofNat (magnitude % twoTo 63 + if negative then twoTo 63 else 0)⟩

/-- Values that are no number. -/
def isNaN (x : Binary64) : Bool :=
  infiniteMagnitude < x.magnitude

/-- The two infinities. -/
def isInfinite (x : Binary64) : Bool :=
  x.magnitude == infiniteMagnitude

/-- A value that is no number. -/
def nan : Binary64 := ofParts false (infiniteMagnitude + twoTo 51)

/-- The infinity of a sign. -/
def infinity (negative : Bool) : Binary64 := ofParts negative infiniteMagnitude

/-- The zero of a sign. -/
def zero (negative : Bool) : Binary64 := ofParts negative 0

/-- The place of a number on the line: equal for the two zeros, and of an infinity beyond that
of every finite number. -/
def place (x : Binary64) : Int :=
  if x.negative then -(x.magnitude : Int) else x.magnitude

/-- The numeric order. What is no number has none. -/
def compare? (x y : Binary64) : Option Ordering :=
  if x.isNaN || y.isNaN then none else some (compare x.place y.place)

/-- Numeric equality: the zeros are equal, and what is no number equals nothing. -/
def same (x y : Binary64) : Bool :=
  x.compare? y == some .eq

/-- A finite number is its significand times two to its exponent. -/
def significand (x : Binary64) : Nat :=
  if x.magnitude < twoTo 52 then x.magnitude else twoTo 52 + x.magnitude % twoTo 52

/-- The exponent that goes with the significand. -/
def exponent (x : Binary64) : Int :=
  if x.magnitude < twoTo 52 then -1074 else (x.magnitude / twoTo 52 : Nat) - 1075

/-- The integer nearest to a quotient, of two the even one. -/
def roundHalfEven (numerator denominator : Nat) : Nat :=
  let floor := numerator / denominator
  let twice := 2 * (numerator % denominator)
  if twice < denominator then floor
  else if denominator < twice then floor + 1
  else floor + floor % 2

/-- The largest exponent of two at or below a positive quotient. -/
def binaryExponent (numerator denominator : Nat) : Int :=
  let guess : Int := (numerator.log2 : Int) - denominator.log2
  if numerator * twoTo (-guess).toNat < denominator * twoTo guess.toNat then guess - 1 else guess

/-- The magnitude nearest to a quotient, infinite from half a step beyond the largest finite
number on. -/
def nearestMagnitude (numerator denominator : Nat) : Nat :=
  if numerator = 0 then 0
  else
    let step := max (binaryExponent numerator denominator - 52) (-1074)
    let steps := roundHalfEven (numerator * twoTo (-step).toNat) (denominator * twoTo step.toNat)
    min ((step + 1074).toNat * twoTo 52 + steps) infiniteMagnitude

/-- The number of a sign nearest to a quotient. -/
def nearest (negative : Bool) (numerator denominator : Nat) : Binary64 :=
  ofParts negative (nearestMagnitude numerator denominator)

/-- The number nearest to an integer. -/
def ofInt (i : Int) : Binary64 :=
  nearest (i < 0) i.natAbs 1

/-- The number nearest to `digits` times ten to the `exponent`. Beyond three hundred and ten
places the answer is known without computing the power. -/
def ofDecimal (negative : Bool) (digits : Nat) (exponent : Int) : Binary64 :=
  if digits = 0 then zero negative
  else
    let places : Int := (Nat.toDigits 10 digits).length + exponent
    if 310 < places then infinity negative
    else if places < -330 then zero negative
    else nearest negative (digits * tenTo exponent.toNat) (tenTo (-exponent).toNat)

/-- The absolute value of a finite number as a quotient. -/
def ratio (x : Binary64) : Nat × Nat :=
  (x.significand * twoTo x.exponent.toNat, twoTo (-x.exponent).toNat)

/-- The product, rounded. -/
def mul (x y : Binary64) : Binary64 :=
  let negative := x.negative != y.negative
  if x.isNaN || y.isNaN then nan
  else if x.isInfinite || y.isInfinite then
    if x.magnitude = 0 || y.magnitude = 0 then nan else infinity negative
  else
    nearest negative (x.ratio.1 * y.ratio.1) (x.ratio.2 * y.ratio.2)

/-- The quotient, rounded. -/
def div (x y : Binary64) : Binary64 :=
  let negative := x.negative != y.negative
  if x.isNaN || y.isNaN then nan
  else if x.isInfinite then if y.isInfinite then nan else infinity negative
  else if y.isInfinite then zero negative
  else if y.magnitude = 0 then if x.magnitude = 0 then nan else infinity negative
  else nearest negative (x.ratio.1 * y.ratio.2) (x.ratio.2 * y.ratio.1)

end Binary64

end ListQuery
