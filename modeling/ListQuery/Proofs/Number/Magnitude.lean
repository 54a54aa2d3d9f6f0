import ListQuery.Number.Binary64

/-! Magnitudes of the numbers that are built from parts. An integer is never rounded to what is
no number. -/

namespace ListQuery.Binary64

theorem magnitude_ofParts (negative : Bool) (magnitude : Nat) :
    (ofParts negative magnitude).magnitude = magnitude % twoTo 63 := by
  have bound : magnitude % twoTo 63 < twoTo 63 := Nat.mod_lt _ (twoTo_pos 63)
  have width : twoTo 63 = 9223372036854775808 := by decide
  rw [width] at bound
  simp only [Binary64.magnitude, ofParts, UInt64.toNat_ofNat', width]
  cases negative with
  | false =>
    rw [if_neg Bool.false_ne_true]
    omega
  | true =>
    rw [if_pos rfl]
    omega

theorem nearestMagnitude_le (numerator denominator : Nat) :
    nearestMagnitude numerator denominator ≤ infiniteMagnitude := by
  unfold nearestMagnitude
  split
  · exact Nat.zero_le _
  · exact Nat.min_le_right _ _

theorem isNaN_nearest (negative : Bool) (numerator denominator : Nat) :
    (nearest negative numerator denominator).isNaN = false := by
  have bound := nearestMagnitude_le numerator denominator
  have reduced := Nat.mod_le (nearestMagnitude numerator denominator) (twoTo 63)
  simp only [isNaN, nearest, magnitude_ofParts, decide_eq_false_iff_not]
  omega

theorem isNaN_ofInt (i : Int) : (ofInt i).isNaN = false :=
  isNaN_nearest _ _ _

/-- Two values that are numbers are ordered by their places. -/
theorem compare?_of_numbers {a b : Binary64} (left : a.isNaN = false) (right : b.isNaN = false) :
    a.compare? b = some (compare a.place b.place) := by
  simp [compare?, left, right]

end ListQuery.Binary64
