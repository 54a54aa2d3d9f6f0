import ListQuery.Number.Binary64

/-! The shortest decimal that reads back as a given number.

A decimal reads back as a finite number when it lies in the interval of reals that round to it.
The grids of one, two, up to seventeen digits are tried in turn; on each only the number's two
neighbours can be nearest. The first grid with a hit wins, and of two hits the nearer one. -/

namespace ListQuery.Binary64

/-- A positive decimal: digits times ten to an exponent. -/
structure Decimal where
  digits : Nat
  exponent : Int
deriving DecidableEq

/-- Which neighbour is taken when the number lies halfway between two. -/
inductive Tie where
  | up
  | toEven
deriving DecidableEq

/-- A positive number and the interval that rounds to it, as multiples of one quotient:
`lower`, `value` and `upper` over `denominator`. The ends belong to the interval when the
significand is even. -/
structure Interval where
  lower : Nat
  value : Nat
  upper : Nat
  denominator : Nat
  ends : Bool

/-- The interval of a positive finite number. Below a power of two the numbers lie twice as
close as above it. -/
def interval (x : Binary64) : Interval :=
  let m := x.significand
  let q := x.exponent - 2
  let scale := twoTo q.toNat
  let below := if m = twoTo 52 && -1074 < x.exponent then 1 else 2
  { lower := (4 * m - below) * scale
    value := 4 * m * scale
    upper := (4 * m + 2) * scale
    denominator := twoTo (-q).toNat
    ends := m % 2 = 0 }

/-- Whether a decimal lies in the interval. -/
def Interval.holds (i : Interval) (d : Decimal) : Bool :=
  let point := d.digits * tenTo d.exponent.toNat * i.denominator
  let scale := tenTo (-d.exponent).toNat
  if i.ends then i.lower * scale ≤ point && point ≤ i.upper * scale
  else i.lower * scale < point && point < i.upper * scale

/-- The nearest point of the grid of a decimal exponent that reads back, if there is one. -/
def Interval.onGrid? (i : Interval) (tie : Tie) (exponent : Int) : Option Decimal :=
  let numerator := i.value * tenTo (-exponent).toNat
  let denominator := i.denominator * tenTo exponent.toNat
  let floor := numerator / denominator
  let below : Decimal := ⟨floor, exponent⟩
  let above : Decimal := ⟨floor + 1, exponent⟩
  let twice := 2 * (numerator % denominator)
  match floor != 0 && i.holds below, i.holds above with
  | false, false => none
  | true, false => some below
  | false, true => some above
  | true, true =>
    if twice < denominator then some below
    else if denominator < twice then some above
    else if tie = .toEven && floor % 2 = 0 then some below
    else some above

/-- The exponent of ten at or below a positive quotient. -/
def decimalExponent (numerator denominator : Nat) : Int :=
  let guess : Int := ((Nat.toDigits 10 numerator).length : Int)
    - (Nat.toDigits 10 denominator).length
  if numerator * tenTo (-guess).toNat < denominator * tenTo guess.toNat then guess - 1 else guess

/-- The first grid with a hit, from one digit on, and the last grid if none is left. -/
def Interval.search (i : Interval) (tie : Tie) (top : Int) : Nat → Nat → Decimal
  | count, 0 => (i.onGrid? tie (top - count)).getD ⟨0, 0⟩
  | count, left + 1 =>
    match i.onGrid? tie (top - count) with
    | some decimal => decimal
    | none => search i tie top (count + 1) left

/-- A decimal without trailing zeros among its digits. -/
def Decimal.stripped (d : Decimal) : Decimal :=
  strip 20 d
where
  strip : Nat → Decimal → Decimal
    | 0, d => d
    | n + 1, d =>
      if d.digits != 0 && d.digits % 10 = 0 then strip n ⟨d.digits / 10, d.exponent + 1⟩ else d

/-- The shortest decimal for a positive finite number. -/
def shortest (tie : Tie) (x : Binary64) : Decimal :=
  let i := x.interval
  (i.search tie (decimalExponent i.value i.denominator) 0 17).stripped

end ListQuery.Binary64
