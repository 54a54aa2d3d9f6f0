import Mathlib.Data.List.Basic
import Mathlib.Data.List.TakeWhile
import Mathlib.Tactic.SplitIfs
import ListQuery.Json.Number
import ListQuery.Json.Reader
import ListQuery.Json.Writer
import ListQuery.Proofs.Number.Digits

/-! Written JSON read back. Each character of a text is read from the way it is written, whatever
comes after it, and so is the text; and an integer is read from its sign and its digits. -/

namespace ListQuery

namespace Json

/-! ### Texts -/

/-- A piece spells a character, whatever pieces come after it. -/
def Piece.Spells (piece : Piece) (c : Char) : Prop :=
  ∀ later, characters? (piece :: later) = (characters? later).map (c :: ·)

theorem spells_char (c : Char) : (Piece.char c).Spells c :=
  fun _ => rfl

/-- A unit below the surrogates needs no second one. -/
theorem spells_unit {c : Char} (low : c.toNat < 0xD800) : (Piece.unit c.toNat).Spells c := by
  have high : ¬ 0xD800 ≤ c.toNat := Nat.not_le_of_lt low
  have trail : ¬ 0xDC00 ≤ c.toNat := by omega
  intro later
  cases later with
  | nil => simp [characters?, high]
  | cons piece later =>
    cases piece with
    | char d => simp [characters?, high]
    | unit code => simp [characters?, high, trail]

/-- A piece is read in front of any rest of a text. -/
def Front (written : List Char) (piece : Piece) : Prop :=
  ∀ rest, pieces? (written ++ rest) =
    (pieces? rest).map fun (later, rest) => (piece :: later, rest)

theorem front_short {e c : Char} (other : e ≠ 'u') (short : shortEscape? e = some c) :
    Front ['\\', e] (.char c) := by
  intro rest
  rw [List.cons_append, List.cons_append, List.nil_append, pieces?, short]
  · cases pieces? rest <;> rfl
  · rintro _ _ _ _ _ rfl
    exact absurd rfl other

theorem hexDigit?_digitChar {n : Nat} (small : n < 16) : hexDigit? (Nat.digitChar n) = some n := by
  have each : ∀ n : Fin 16, hexDigit? (Nat.digitChar n.val) = some n.val := by decide
  exact each ⟨n, small⟩

theorem front_long {n : Nat} (small : n < 256) :
    Front ['\\', 'u', '0', '0', Nat.digitChar (n / 16), Nat.digitChar (n % 16)] (.unit n) := by
  intro rest
  have code : hex? '0' '0' (Nat.digitChar (n / 16)) (Nat.digitChar (n % 16)) = some n := by
    have zero : hexDigit? '0' = some 0 := rfl
    simp only [hex?, zero, hexDigit?_digitChar (show n / 16 < 16 by omega),
      hexDigit?_digitChar (show n % 16 < 16 by omega), Option.bind_eq_bind, Option.bind_some]
    exact congrArg some (by omega)
  simp only [List.cons_append, List.nil_append, pieces?, code]
  cases pieces? rest <;> rfl

theorem front_plain {c : Char} (quote : c ≠ '"') (backslash : c ≠ '\\') (visible : 32 ≤ c.toNat) :
    Front [c] (.char c) := by
  intro rest
  simp only [List.cons_append, List.nil_append]
  rw [pieces?]
  · simp [backslash, Nat.not_lt_of_le visible]
  all_goals simp [quote, backslash]

/-- A written character is read as a piece that spells it. -/
theorem exists_front_writtenChar (c : Char) :
    ∃ piece : Piece, piece.Spells c ∧ Front (writtenChar c) piece := by
  have letter {e c : Char} (other : e ≠ 'u') (short : shortEscape? e = some c) :
      ∃ piece : Piece, piece.Spells c ∧ Front ['\\', e] piece :=
    ⟨.char c, spells_char c, front_short other short⟩
  unfold writtenChar
  split_ifs with sign backspace feed newline carriage tab control
  · obtain rfl | rfl : c = '"' ∨ c = '\\' := by simpa using sign
    · exact letter (by decide) rfl
    · exact letter (by decide) rfl
  · exact backspace ▸ letter (by decide) rfl
  · exact feed ▸ letter (by decide) rfl
  · exact newline ▸ letter (by decide) rfl
  · exact carriage ▸ letter (by decide) rfl
  · exact tab ▸ letter (by decide) rfl
  · exact ⟨.unit c.toNat, spells_unit (by omega), front_long (by omega)⟩
  · have plain : c ≠ '"' ∧ c ≠ '\\' := by simpa using sign
    exact ⟨.char c, spells_char c, front_plain plain.1 plain.2 (Nat.le_of_not_lt control)⟩

/-- What is written of a text is read up to the closing quote, as pieces that spell the text. -/
theorem exists_pieces?_written (text rest : List Char) :
    ∃ pieces, pieces? (text.flatMap writtenChar ++ '"' :: rest) = some (pieces, rest) ∧
      characters? pieces = some text := by
  induction text with
  | nil => exact ⟨[], by simp [pieces?], rfl⟩
  | cons c text ih =>
    obtain ⟨pieces, read, spelled⟩ := ih
    obtain ⟨piece, spells, front⟩ := exists_front_writtenChar c
    refine ⟨piece :: pieces, ?_, ?_⟩
    · rw [List.flatMap_cons, List.append_assoc, front, read]
      rfl
    · rw [spells, spelled]
      rfl

/-! ### Texts of one part -/

theorem partsWithin_nil (steps : Nat) : partsWithin steps [] = some [] := by
  cases steps <;> rfl

/-- A part that is all of a text is its only part. -/
theorem parts_of_part? {c : Char} {rest : List Char} {part : Part} (solid : isBlank c = false)
    (whole : part? c rest = some (part, [])) : parts (c :: rest) = some [part] := by
  have kept : (c :: rest).dropWhile isBlank = c :: rest :=
    List.dropWhile_cons_of_neg (by simp [solid])
  simp only [parts, List.length_cons, partsWithin, kept, whole, partsWithin_nil,
    Option.bind_eq_bind, Option.bind_some]
  rfl

/-- A written text is read as the text. -/
theorem read?_writtenText (text : String) :
    read? (writtenText text) = some (.text (some text)) := by
  obtain ⟨pieces, read, spelled⟩ := exists_pieces?_written text.toList []
  have whole : part? '"' (text.toList.flatMap writtenChar ++ ['"']) =
      some (.text (some text), []) := by
    simp [part?, read, Json.spelled, spelled]
  rw [read?, writtenText, String.toList_ofList, parts_of_part? rfl whole]
  rfl

/-! ### Integers -/

/-- No number but zero begins with the digit zero. -/
theorem eq_zero_of_head_toDigits {n : Nat} (zero : (Nat.toDigits 10 n).head? = some '0') :
    n = 0 := by
  induction n using Nat.strongRecOn with
  | ind n ih =>
    by_cases small : n < 10
    · have each : ∀ d : Fin 10, Nat.digitChar d.val = '0' → d.val = 0 := by decide
      rw [Nat.toDigits_of_lt_base small, List.head?_cons] at zero
      exact each ⟨n, small⟩ (Option.some.inj zero)
    · rw [Nat.toDigits_of_base_le (by decide) (Nat.le_of_not_lt small),
        List.head?_append_of_ne_nil _ Nat.toDigits_ne_nil] at zero
      have front := ih (n / 10) (by omega) zero
      omega

end Json

/-- The number that an integer is written as. -/
def JsonNumber.ofInt : Int → JsonNumber
  | .ofNat n => ⟨false, Nat.toDigits 10 n, [], none⟩
  | .negSucc n => ⟨true, Nat.toDigits 10 (n + 1), [], none⟩

namespace Json

/-- A run of digits is a number, and so is one behind a minus sign. -/
theorem number?_toDigits (n : Nat) :
    number? (Nat.toDigits 10 n) = some (⟨false, Nat.toDigits 10 n, [], none⟩, []) ∧
      number? ('-' :: Nat.toDigits 10 n) = some (⟨true, Nat.toDigits 10 n, [], none⟩, []) := by
  have each : ∀ c ∈ Nat.toDigits 10 n, c.isDigit = true := fun _ => Numeral.isDigit_of_mem_toDigits
  have run : (Nat.toDigits 10 n).takeWhile Char.isDigit = Nat.toDigits 10 n :=
    List.takeWhile_eq_self_iff.mpr each
  have rest : (Nat.toDigits 10 n).dropWhile Char.isDigit = [] :=
    List.dropWhile_eq_nil_iff.mpr each
  -- A zero in front is all there is.
  have lead : ¬ ((Nat.toDigits 10 n).head? = some '0' ∧ 1 < (Nat.toDigits 10 n).length) := by
    rintro ⟨zero, long⟩
    rw [eq_zero_of_head_toDigits zero] at long
    exact absurd long (by decide)
  have unsigned : ∀ rest, Nat.toDigits 10 n ≠ '-' :: rest := by
    intro rest same
    have digit := each '-' (same ▸ List.mem_cons_self)
    cases digit
  constructor
  · simp [number?, run, rest, lead]
  · simp [number?, run, rest, lead]

theorem number?_toString (i : Int) :
    number? (toString i).toList = some (.ofInt i, []) := by
  cases i with
  | ofNat n =>
    rw [Numeral.toList_ofNat]
    exact (number?_toDigits n).1
  | negSucc n =>
    rw [Numeral.toList_negSucc]
    exact (number?_toDigits (n + 1)).2

section Sign

variable {c : Char} (sign : (c == '-' || c.isDigit) = true)
include sign

theorem ne_of_sign {d : Char} (other : (d == '-' || d.isDigit) = false) : c ≠ d := by
  rintro rfl
  cases sign.symm.trans other

theorem isBlank_of_sign : isBlank c = false := by
  have solid : c ≠ ' ' ∧ c ≠ '\t' ∧ c ≠ '\n' ∧ c ≠ '\r' :=
    ⟨ne_of_sign sign rfl, ne_of_sign sign rfl, ne_of_sign sign rfl, ne_of_sign sign rfl⟩
  simp [isBlank, solid]

/-- A digit or a minus sign begins a number and no other part. -/
theorem part?_of_sign (rest : List Char) :
    part? c rest =
      (number? (c :: rest)).map fun (numeral, rest) => (.value (.number numeral), rest) := by
  have brackets : c ≠ '[' ∧ c ≠ ']' ∧ c ≠ '\x7b' ∧ c ≠ '\x7d' :=
    ⟨ne_of_sign sign rfl, ne_of_sign sign rfl, ne_of_sign sign rfl, ne_of_sign sign rfl⟩
  have marks : c ≠ ',' ∧ c ≠ ':' ∧ c ≠ '"' :=
    ⟨ne_of_sign sign rfl, ne_of_sign sign rfl, ne_of_sign sign rfl⟩
  have letters : 'n' ≠ c ∧ 't' ≠ c ∧ 'f' ≠ c :=
    ⟨(ne_of_sign sign rfl).symm, (ne_of_sign sign rfl).symm, (ne_of_sign sign rfl).symm⟩
  simp [part?, brackets, marks, letters]

end Sign

theorem exists_sign (i : Int) :
    ∃ c rest, (toString i).toList = c :: rest ∧ (c == '-' || c.isDigit) = true := by
  cases i with
  | ofNat n =>
    have filled : Nat.toDigits 10 n ≠ [] := Nat.toDigits_ne_nil
    obtain ⟨c, rest, same⟩ := List.exists_cons_of_ne_nil filled
    have among : c ∈ Nat.toDigits 10 n := same ▸ List.mem_cons_self
    have digit : c.isDigit = true := Numeral.isDigit_of_mem_toDigits among
    exact ⟨c, rest, (Numeral.toList_ofNat n).trans same, by rw [digit, Bool.or_true]⟩
  | negSucc n => exact ⟨'-', _, Numeral.toList_negSucc n, rfl⟩

/-- An integer is read from how it is written. -/
theorem read?_toString (i : Int) : read? (toString i) = some (.number (.ofInt i)) := by
  obtain ⟨c, rest, spelled, sign⟩ := exists_sign i
  have read := number?_toString i
  rw [spelled] at read
  have whole : part? c rest = some (.value (.number (.ofInt i)), []) := by
    rw [part?_of_sign sign, read]
    rfl
  rw [read?, spelled, parts_of_part? (isBlank_of_sign sign) whole]
  rfl

end Json

/-- An integer of 64 bits with a sign means itself. -/
theorem JsonNumber.meaning?_ofInt {i : Int} (atLeast : Int64.minValue.toInt ≤ i)
    (atMost : i ≤ Int64.maxValue.toInt) : (ofInt i).meaning? = some (.int i) := by
  have greatest : Int64.maxValue.toInt = 9223372036854775807 := by decide
  cases i with
  | ofNat n =>
    have small : n < UInt64.size := by
      rw [greatest, Int.ofNat_eq_natCast] at atMost
      rw [UInt64.size]
      omega
    simp [meaning?, ofInt, Numeral.natural_toDigits, small]
  | negSucc n =>
    have small : Int64.minValue.toInt ≤ -((n + 1 : Nat) : Int) := atLeast
    have positive : 0 < n + 1 := Nat.succ_pos n
    simp only [meaning?, ofInt, Numeral.natural_toDigits, small, positive]
    rfl

end ListQuery
