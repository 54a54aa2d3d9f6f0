import ListQuery.Proofs.Number.Magnitude

/-! Integers rounded to floating-point numbers. An integer has a significand of fifty-three bits and
an exponent that is its length; within one length the steps are rounded in order, and the last step
of a length is where the next one begins. So rounding keeps the order of integers, though it may
bring two of them together. -/

namespace ListQuery

/-! ### Powers of two -/

theorem twoTo_add (m n : Nat) : twoTo (m + n) = twoTo m * twoTo n :=
  Nat.pow_add 2 m n

theorem twoTo_log2_le {n : Nat} (positive : n ≠ 0) : twoTo n.log2 ≤ n :=
  Nat.log2_self_le positive

theorem lt_twoTo_succ_log2 (n : Nat) : n < twoTo (n.log2 + 1) :=
  Nat.lt_log2_self

namespace Binary64

/-! ### Halves to the even neighbour -/

theorem le_roundHalfEven (numerator denominator : Nat) :
    numerator / denominator ≤ roundHalfEven numerator denominator := by
  simp only [roundHalfEven]
  repeat' split
  all_goals omega

theorem roundHalfEven_le (numerator denominator : Nat) :
    roundHalfEven numerator denominator ≤ numerator / denominator + 1 := by
  simp only [roundHalfEven]
  repeat' split
  all_goals omega

theorem roundHalfEven_mono {numerator greater : Nat} (denominator : Nat)
    (le : numerator ≤ greater) :
    roundHalfEven numerator denominator ≤ roundHalfEven greater denominator := by
  rcases Nat.lt_or_eq_of_le (Nat.div_le_div_right le (c := denominator)) with below | same
  · calc roundHalfEven numerator denominator
        ≤ numerator / denominator + 1 := roundHalfEven_le _ _
      _ ≤ greater / denominator := below
      _ ≤ roundHalfEven greater denominator := le_roundHalfEven _ _
  · -- Between two neighbours the remainder decides.
    have remainders : numerator % denominator ≤ greater % denominator := by
      have first := Nat.div_add_mod numerator denominator
      have second := Nat.div_add_mod greater denominator
      rw [same] at first
      omega
    simp only [roundHalfEven, same]
    repeat' split
    all_goals omega

/-! ### Steps within a length -/

/-- The significand of a positive integer with so many binary places after the first. -/
def integerSteps (places n : Nat) : Nat :=
  roundHalfEven (n * twoTo (52 - places)) (twoTo (places - 52))

theorem binaryExponent_one {n : Nat} (positive : n ≠ 0) : binaryExponent n 1 = n.log2 := by
  have reached : ¬ n * twoTo (-(n.log2 : Int)).toNat < 1 * twoTo (n.log2 : Int).toNat := by
    rw [Int.toNat_of_nonpos (by omega), Int.toNat_natCast, Nat.one_mul]
    exact Nat.not_lt.mpr (Nat.le_trans (twoTo_log2_le positive) (Nat.le_of_eq (Nat.mul_one n).symm))
  have one : Nat.log2 1 = 0 := by decide
  simp only [binaryExponent, one, Int.natCast_zero, Int.sub_zero, if_neg reached]

theorem nearestMagnitude_one {n : Nat} (positive : n ≠ 0) :
    nearestMagnitude n 1 =
      min ((n.log2 + 1022) * twoTo 52 + integerSteps n.log2 n) infiniteMagnitude := by
  have step : max (binaryExponent n 1 - 52) (-1074) = (n.log2 : Int) - 52 := by
    rw [binaryExponent_one positive]
    omega
  have down : (-((n.log2 : Int) - 52)).toNat = 52 - n.log2 := by omega
  have up : ((n.log2 : Int) - 52).toNat = n.log2 - 52 := by omega
  have level : ((n.log2 : Int) - 52 + 1074).toNat = n.log2 + 1022 := by omega
  simp only [nearestMagnitude, if_neg positive, step, down, up, level, Nat.one_mul, integerSteps]

/-- The places that are filled up and those that are rounded away. -/
theorem twoTo_places (places : Nat) :
    twoTo places * twoTo (52 - places) = twoTo 52 * twoTo (places - 52) := by
  rw [← twoTo_add, ← twoTo_add]
  congr 1
  omega

/-- A significand has fifty-three bits, or is the first with one more. -/
theorem integerSteps_bounds {n : Nat} (positive : n ≠ 0) :
    twoTo 52 ≤ integerSteps n.log2 n ∧ integerSteps n.log2 n ≤ 2 * twoTo 52 := by
  have low := Nat.mul_le_mul_right (twoTo (52 - n.log2)) (twoTo_log2_le positive)
  rw [twoTo_places] at low
  have high := Nat.mul_lt_mul_of_pos_right (lt_twoTo_succ_log2 n) (twoTo_pos (52 - n.log2))
  rw [Nat.add_comm n.log2 1, twoTo_add, Nat.mul_assoc, twoTo_places, ← Nat.mul_assoc] at high
  constructor
  · exact Nat.le_trans ((Nat.le_div_iff_mul_le (twoTo_pos _)).mpr low) (le_roundHalfEven _ _)
  · exact Nat.le_trans (roundHalfEven_le _ _) ((Nat.div_lt_iff_lt_mul (twoTo_pos _)).mpr high)

/-! ### Order -/

theorem log2_mono {m n : Nat} (positive : m ≠ 0) (le : m ≤ n) : m.log2 ≤ n.log2 := by
  have below := Nat.lt_of_le_of_lt (Nat.le_trans (twoTo_log2_le positive) le)
    (lt_twoTo_succ_log2 n)
  exact Nat.lt_succ_iff.mp ((Nat.pow_lt_pow_iff_right (by decide)).mp below)

theorem nearestMagnitude_one_mono {m n : Nat} (le : m ≤ n) :
    nearestMagnitude m 1 ≤ nearestMagnitude n 1 := by
  by_cases zero : m = 0
  · simp [zero, nearestMagnitude]
  · have positive : n ≠ 0 := by omega
    rw [nearestMagnitude_one zero, nearestMagnitude_one positive]
    refine Nat.le_min.mpr ⟨Nat.le_trans (Nat.min_le_left _ _) ?_, Nat.min_le_right _ _⟩
    rcases Nat.lt_or_eq_of_le (log2_mono zero le) with shorter | same
    · -- The last step of a length is the first one of the next.
      have last := (integerSteps_bounds zero).2
      have first := (integerSteps_bounds positive).1
      have next := Nat.mul_le_mul_right (twoTo 52) (Nat.add_le_add_right shorter 1022)
      rw [Nat.succ_add, Nat.succ_mul] at next
      omega
    · rw [integerSteps, integerSteps, same]
      exact Nat.add_le_add_left
        (roundHalfEven_mono _ (Nat.mul_le_mul_right (twoTo (52 - n.log2)) le)) _

theorem negative_ofParts (negative : Bool) (magnitude : Nat) :
    (ofParts negative magnitude).negative = negative := by
  have bound : magnitude % twoTo 63 < twoTo 63 := Nat.mod_lt _ (twoTo_pos 63)
  have width : twoTo 63 = 9223372036854775808 := by decide
  rw [width] at bound
  cases negative with
  | false => simp [Binary64.negative, ofParts, width]; omega
  | true => simp [Binary64.negative, ofParts, width]; omega

theorem place_ofInt (i : Int) :
    (ofInt i).place =
      if i < 0 then -(nearestMagnitude i.natAbs 1 : Int) else nearestMagnitude i.natAbs 1 := by
  have bound := nearestMagnitude_le i.natAbs 1
  have within : infiniteMagnitude < twoTo 63 := by decide
  have kept : nearestMagnitude i.natAbs 1 % twoTo 63 = nearestMagnitude i.natAbs 1 :=
    Nat.mod_eq_of_lt (by omega)
  simp only [place, ofInt, nearest, negative_ofParts, magnitude_ofParts, kept, decide_eq_true_eq]

/-- Rounding keeps the order of integers. -/
theorem place_ofInt_mono {i j : Int} (le : i ≤ j) : (ofInt i).place ≤ (ofInt j).place := by
  rw [place_ofInt, place_ofInt]
  split
  · rename_i below
    split
    · have larger : j.natAbs ≤ i.natAbs := by omega
      have rounded := nearestMagnitude_one_mono larger
      omega
    · omega
  · rename_i natural
    have larger : i.natAbs ≤ j.natAbs := by omega
    have rounded := nearestMagnitude_one_mono larger
    rw [if_neg (by omega)]
    omega

end Binary64

end ListQuery
