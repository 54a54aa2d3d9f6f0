import ListQuery.Number.Numeral

/-! Digits read back. A number that is written in digits, with zeros in front of it or without, is
the value of its digits; and an integer is read from its sign and its digits, whatever bounds it
keeps to. -/

namespace ListQuery.Numeral

/-! ### Runs of digits -/

theorem digit?_of_isDigit {c : Char} (digit : c.isDigit = true) :
    digit? c = some (c.toNat - '0'.toNat) :=
  if_pos digit

theorem natural_of_isDigit {run : List Char} (digits : ∀ c ∈ run, c.isDigit = true) :
    natural run = Nat.ofDigitChars 10 run 0 := by
  have onto (value : Nat) : run.foldl (fun value c => value * 10 + (digit? c).getD 0) value =
      Nat.ofDigitChars 10 run value := by
    induction run generalizing value with
    | nil => rfl
    | cons c rest ih =>
      obtain ⟨digit, others⟩ := List.forall_mem_cons.mp digits
      rw [List.foldl_cons, ih others, digit?_of_isDigit digit, Option.getD_some,
        Nat.ofDigitChars_cons, Nat.mul_comm]
  exact onto 0

theorem isDigit_of_mem_toDigits {n : Nat} {c : Char} (among : c ∈ Nat.toDigits 10 n) :
    c.isDigit = true :=
  Nat.isDigit_of_mem_toDigits (by decide) (Nat.le_refl 10) among

theorem natural_toDigits (n : Nat) : natural (Nat.toDigits 10 n) = n := by
  rw [natural_of_isDigit fun _ => isDigit_of_mem_toDigits, Nat.ofDigitChars_ten_toDigits]

theorem isDigit_of_mem_zeros {count : Nat} {c : Char} (among : c ∈ List.replicate count '0') :
    c.isDigit = true := by
  rw [List.eq_of_mem_replicate among]
  rfl

/-- Further digits make no number smaller. -/
theorem le_ofDigitChars (run : List Char) (value : Nat) :
    value ≤ Nat.ofDigitChars 10 run value := by
  rw [Nat.ofDigitChars_eq_ofDigitChars_zero]
  have grown : value ≤ 10 ^ run.length * value :=
    Nat.le_mul_of_pos_left value (Nat.pow_pos (by decide))
  omega

/-! ### Integers between bounds -/

/-- A number with a sign. -/
def signed (negative : Bool) (n : Nat) : Int :=
  if negative then -n else n

/-- Digits are read onto what was read before, as long as the whole number keeps to the bounds. -/
theorem digits_signed {least greatest : Int} (low : least ≤ 0) (high : 0 ≤ greatest)
    (negative : Bool) {run : List Char} (each : ∀ c ∈ run, c.isDigit = true) {value : Nat}
    (atLeast : least ≤ signed negative (Nat.ofDigitChars 10 run value))
    (atMost : signed negative (Nat.ofDigitChars 10 run value) ≤ greatest) :
    digits least greatest negative (signed negative value) run =
      .ok (signed negative (Nat.ofDigitChars 10 run value)) := by
  induction run generalizing value with
  | nil => rfl
  | cons c rest ih =>
    obtain ⟨digit, others⟩ := List.forall_mem_cons.mp each
    rw [Nat.ofDigitChars_cons] at atLeast atMost ⊢
    have read : (if negative then signed negative value * 10 - (c.toNat - '0'.toNat : Nat)
        else signed negative value * 10 + (c.toNat - '0'.toNat : Nat)) =
        signed negative (10 * value + (c.toNat - '0'.toNat)) := by
      cases negative <;> simp only [signed, Bool.false_eq_true, if_true, if_false] <;> omega
    -- What is read so far is no further from zero than the whole number.
    have grown := le_ofDigitChars rest (10 * value + (c.toNat - '0'.toNat))
    have within : least ≤ signed negative (10 * value + (c.toNat - '0'.toNat)) ∧
        signed negative (10 * value + (c.toNat - '0'.toNat)) ≤ greatest := by
      cases negative <;> simp only [signed, Bool.false_eq_true, if_true, if_false] at * <;> omega
    simp only [digits, digit?_of_isDigit digit, read]
    rw [if_neg (by omega), if_neg (by omega)]
    exact ih others atLeast atMost

theorem toList_ofNat (n : Nat) : (toString (Int.ofNat n)).toList = Nat.toDigits 10 n :=
  Nat.toList_repr

theorem toList_negSucc (n : Nat) :
    (toString (Int.negSucc n)).toList = '-' :: Nat.toDigits 10 (n + 1) := by
  have parts : toString (Int.negSucc n) = "-" ++ toString (n + 1) := rfl
  rw [parts, String.toList_append, Nat.toString_eq_repr, Nat.toList_repr]
  rfl

/-- An integer is read from how it is written. -/
theorem integer_toString {least greatest i : Int} (low : least ≤ 0) (high : 0 ≤ greatest)
    (atLeast : least ≤ i) (atMost : i ≤ greatest) :
    integer least greatest (toString i).toList = .ok i := by
  have read (negative : Bool) (n : Nat) (lower : least ≤ signed negative n)
      (upper : signed negative n ≤ greatest) :
      digits least greatest negative 0 (Nat.toDigits 10 n) = .ok (signed negative n) := by
    have zero : signed negative 0 = 0 := by cases negative <;> rfl
    have whole : digits least greatest negative (signed negative 0) (Nat.toDigits 10 n) =
        .ok (signed negative (Nat.ofDigitChars 10 (Nat.toDigits 10 n) 0)) :=
      digits_signed low high negative (fun _ => isDigit_of_mem_toDigits)
        (by rwa [Nat.ofDigitChars_ten_toDigits]) (by rwa [Nat.ofDigitChars_ten_toDigits])
    rwa [zero, Nat.ofDigitChars_ten_toDigits] at whole
  cases i with
  | ofNat n =>
    have signless (c : Char) (rest : List Char) (sign : c.isDigit = false) :
        Nat.toDigits 10 n ≠ c :: rest := by
      intro begins
      rw [isDigit_of_mem_toDigits (n := n) (begins ▸ List.mem_cons_self)] at sign
      cases sign
    rw [toList_ofNat, integer]
    · exact read false n atLeast atMost
    · exact Nat.toDigits_ne_nil
    · exact fun rest => signless '+' rest rfl
    · exact fun rest => signless '-' rest rfl
  | negSucc n =>
    have filled : (Nat.toDigits 10 (n + 1)).isEmpty = false := by simp
    have below : ¬ 0 ≤ least := by omega
    rw [toList_negSucc, integer, filled]
    simp only [Bool.false_or, decide_eq_true_eq, if_neg below]
    exact read true (n + 1) atLeast atMost

/-- Every integer of 64 bits is read from how it is written. -/
theorem int64_toString (i : Int64) : int64 (toString i.toInt) = .ok i := by
  have read : integer Int64.minValue.toInt Int64.maxValue.toInt (toString i.toInt).toList =
      .ok i.toInt :=
    integer_toString (by decide) (by decide) i.minValue_le_toInt i.toInt_le
  rw [int64, read]
  exact congrArg Except.ok (Int64.ofInt_toInt i)

end ListQuery.Numeral
