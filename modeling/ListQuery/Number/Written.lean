import ListQuery.Number.Shortest

/-! Numbers as text: the shortest digits, set out by a layout. -/

namespace ListQuery.Binary64

/-- The choices that a written form makes beside the digits. The leading digit's power of ten
decides between positional and exponent form. -/
structure Layout where
  /-- Powers of ten that are written positionally; `none` for all. -/
  positional : Option (Int × Int)
  /-- Whether a whole number keeps a zero after the point. -/
  keepPoint : Bool
  /-- Whether a positive exponent has a sign. -/
  exponentPlus : Bool
  /-- The neighbour taken at a tie. -/
  tie : Tie

/-- Always positional, and whole numbers without a point. -/
def Layout.plain : Layout := ⟨none, false, false, .up⟩

/-- Whole numbers keep their point; very large and very small numbers have an exponent. -/
def Layout.precise : Layout := ⟨some (-4, 15), true, false, .up⟩

/-- As numbers stand in JSON. -/
def Layout.json : Layout := ⟨some (-5, 15), true, true, .toEven⟩

/-- Digits with the point after `whole` of them. -/
def pointed (digits : List Char) (whole : Int) (keepPoint : Bool) : String :=
  let tail := if keepPoint then ".0" else ""
  if whole ≤ 0 then
    "0." ++ String.ofList (List.replicate (-whole).toNat '0' ++ digits)
  else if digits.length ≤ whole.toNat then
    String.ofList (digits ++ List.replicate (whole.toNat - digits.length) '0') ++ tail
  else
    String.ofList (digits.take whole.toNat) ++ "." ++ String.ofList (digits.drop whole.toNat)

/-- The absolute value of a finite number. -/
def unsigned (layout : Layout) (x : Binary64) : String :=
  if x.magnitude = 0 then if layout.keepPoint then "0.0" else "0"
  else
    let decimal := x.shortest layout.tie
    let digits := Nat.toDigits 10 decimal.digits
    let power : Int := decimal.exponent + digits.length - 1
    let positional :=
      match layout.positional with
      | none => true
      | some (least, greatest) => least ≤ power && power ≤ greatest
    if positional then pointed digits (power + 1) layout.keepPoint
    else
      let fraction := String.ofList (digits.drop 1)
      let mark := if 0 ≤ power && layout.exponentPlus then "e+" else "e"
      String.ofList (digits.take 1) ++ (if fraction.isEmpty then "" else "." ++ fraction)
        ++ mark ++ toString power

/-- The text of a number. -/
def written (layout : Layout) (x : Binary64) : String :=
  if x.isNaN then "NaN"
  else (if x.negative then "-" else "") ++
    if x.isInfinite then "inf" else unsigned layout x

end ListQuery.Binary64
