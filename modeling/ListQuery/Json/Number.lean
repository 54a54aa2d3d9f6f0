import ListQuery.Json.Basic
import ListQuery.Number.Numeral

/-! What JSON numbers mean. Integers that fit into 64 bits are exact. All others are floats:
their leading digits are taken as far as they fit into 64 bits, rounded once, and then multiplied
or divided by a power of ten, which rounds again. -/

namespace ListQuery

namespace JsonNumber

/-- The meaning of a number. -/
inductive Meaning where
  | int (value : Int)
  | float (value : Binary64)

/-- Takes digits as long as the number fits into 64 bits: the number and the digits left. -/
private def take (taken : Nat) : List Char → Nat × List Char
  | [] => (taken, [])
  | c :: rest =>
    let next := taken * 10 + (Numeral.digit? c).getD 0
    if next < UInt64.size then take next rest else (taken, c :: rest)

/-- Ten to a power of at most three hundred and eight. -/
private def power (n : Nat) : Binary64 :=
  Binary64.nearest false (tenTo n) 1

/-- Divides by large powers until the exponent is at least minus three hundred and eight, or
nothing is left. -/
private def descend : Nat → Binary64 → Nat → Binary64
  | 0, value, _ => value
  | steps + 1, value, exponent =>
    if exponent ≤ 308 then value.div (power exponent)
    else if value.magnitude = 0 then value
    else descend steps (value.div (power 308)) (exponent - 308)

/-- A significand times ten to an exponent, unless that is too large. -/
private def scale (significand : Nat) (exponent : Int) : Option Binary64 :=
  let value := Binary64.nearest false significand 1
  if exponent < 0 then some (descend 4 value exponent.natAbs)
  else if exponent ≤ 308 then
    let product := value.mul (power exponent.toNat)
    if product.isInfinite then none else some product
  else if significand = 0 then some value
  else none

/-- The greatest exponent that is counted. -/
private def greatestExponent : Nat := 2147483647

/-- The float of a number, unless it is too large. -/
private def float? (n : JsonNumber) : Option Binary64 :=
  let (leading, cut) := take 0 n.whole
  let (significand, left) := take leading n.fraction
  let places : Int := cut.length - (n.fraction.length - left.length : Nat)
  let size :=
    match n.exponent with
    | none => scale significand places
    | some (negative, digits) =>
      let exponent := Numeral.natural digits
      if greatestExponent < exponent then
        if significand != 0 && !negative then none else some (Binary64.zero false)
      else scale significand (if negative then places - exponent else places + exponent)
  size.map fun x => Binary64.ofParts n.negative x.magnitude

/-- The meaning of a number, unless it is too large for a float. Minus zero is a float. -/
def meaning? (n : JsonNumber) : Option Meaning :=
  let whole := Numeral.natural n.whole
  if n.fraction.isEmpty && n.exponent.isNone then
    if !n.negative && whole < UInt64.size then some (.int whole)
    else if n.negative && 0 < whole && Int64.minValue.toInt ≤ -(whole : Int) then
      some (.int (-(whole : Int)))
    else n.float?.map .float
  else n.float?.map .float

end JsonNumber

end ListQuery
