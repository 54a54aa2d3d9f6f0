import Mathlib.Data.List.Forall2
import ListQuery.FieldPath
import ListQuery.Text.Ascii
import ListQuery.Text.Lowercase

/-! Texts that differ at most in the case of ASCII letters. Character by character such texts are
the same or letters, so they are cut at the same points, and the full lower case, which looks
around each character, comes out alike. -/

namespace ListQuery.Text

/-- Characters with one small letter. -/
def SameLetter (c d : Char) : Prop :=
  c.toLower = d.toLower

theorem toNat_toLower (c : Char) :
    c.toLower.toNat = if 65 ≤ c.toNat ∧ c.toNat ≤ 90 then c.toNat + 32 else c.toNat := by
  have bounds : (c.val ≥ 'A'.val ∧ c.val ≤ 'Z'.val) ↔ 65 ≤ c.toNat ∧ c.toNat ≤ 90 := by
    simp only [ge_iff_le, UInt32.le_iff_toNat_le]
    rfl
  delta Char.toLower
  split
  · rename_i upper
    have code := bounds.mp upper
    have moved : (c.val + 32).toNat = c.val.toNat + 32 := by
      rw [← Char.toNat_val] at code
      rw [UInt32.toNat_add]
      exact Nat.mod_eq_of_lt (by change c.val.toNat + 32 < _; omega)
    rw [if_pos code]
    exact moved
  · rename_i other
    rw [if_neg (mt bounds.mpr other)]

theorem isAlpha_iff (c : Char) :
    c.isAlpha = true ↔ 65 ≤ c.toNat ∧ c.toNat ≤ 90 ∨ 97 ≤ c.toNat ∧ c.toNat ≤ 122 := by
  delta Char.isAlpha Char.isUpper Char.isLower
  simp only [Bool.or_eq_true, Bool.and_eq_true, decide_eq_true_eq, ge_iff_le,
    UInt32.le_iff_toNat_le]
  rfl

/-- Characters with one small letter are the same, or both are ASCII letters. -/
theorem SameLetter.eq_or_isAlpha {c d : Char} (same : SameLetter c d) :
    c = d ∨ c.isAlpha = true ∧ d.isAlpha = true := by
  have code := congrArg Char.toNat same
  rw [toNat_toLower, toNat_toLower] at code
  rw [isAlpha_iff, isAlpha_iff]
  by_cases equal : c.toNat = d.toNat
  · exact Or.inl (Char.toNat_inj.mp equal)
  · right
    split at code <;> split at code <;> omega

theorem SameLetter.eq_iff {c d other : Char} (same : SameLetter c d)
    (plain : other.isAlpha = false) : c = other ↔ d = other := by
  rcases same.eq_or_isAlpha with rfl | ⟨left, right⟩
  · rfl
  · constructor <;> rintro rfl <;> simp_all

theorem sameIgnoringCase_iff {left right : String} :
    sameIgnoringCase left right = true ↔
      List.Forall₂ SameLetter left.toList right.toList := by
  simp only [sameIgnoringCase, beq_iff_eq, asciiLower]
  rw [← List.forall₂_eq_eq_eq, List.forall₂_map_left_iff, List.forall₂_map_right_iff]
  rfl

/-- Texts that differ in case have the same characters that are no letters. -/
theorem mem_congr {c : Char} (plain : c.isAlpha = false) {left right : List Char}
    (same : List.Forall₂ SameLetter left right) : c ∈ left ↔ c ∈ right := by
  induction same with
  | nil => rfl
  | cons alike _ ih =>
    rw [List.mem_cons, List.mem_cons, ih, eq_comm, alike.eq_iff plain, eq_comm]

theorem sameLetter_toLower (c : Char) : SameLetter c.toLower c := by
  have code := toNat_toLower c
  have small : ¬ (65 ≤ c.toLower.toNat ∧ c.toLower.toNat ≤ 90) := by
    split at code <;> omega
  rw [SameLetter, ← Char.toNat_inj, toNat_toLower c.toLower, if_neg small]

/-- A character that is no letter is the small form of itself alone. -/
theorem toLower_eq_iff {c other : Char} (plain : other.isAlpha = false) :
    c.toLower = other ↔ c = other :=
  (sameLetter_toLower c).eq_iff plain

/-- A name in small ASCII letters. -/
def lowered (name : String) : String :=
  String.ofList (asciiLower name.toList)

theorem sameIgnoringCase_lowered (name : String) : sameIgnoringCase (lowered name) name = true := by
  rw [sameIgnoringCase_iff, lowered, String.toList_ofList, asciiLower, List.forall₂_map_left_iff,
    List.forall₂_same]
  exact fun c _ => sameLetter_toLower c

/-! ## Texts cut at a character -/

theorem pieces_cons (separator c : Char) (text : List Char) :
    pieces separator (c :: text) =
      if c = separator then [] :: pieces separator text
      else (pieces separator text).modifyHead (c :: ·) := by
  rw [pieces]
  obtain ⟨first, later, cut⟩ := List.exists_cons_of_ne_nil (pieces_ne_nil separator text)
  rw [cut]
  rfl

theorem pieces_eq_splitOn (separator : Char) (text : List Char) :
    pieces separator text = text.splitOn separator := by
  induction text with
  | nil => rfl
  | cons c rest ih =>
    rw [pieces_cons, ih, List.splitOn, List.splitOn, List.splitOnP_cons_eq_if_modifyHead]
    simp only [beq_iff_eq]

theorem not_mem_of_mem_pieces {separator : Char} {text piece : List Char}
    (cut : piece ∈ pieces separator text) : separator ∉ piece := by
  induction text generalizing piece with
  | nil =>
    rw [pieces, List.mem_singleton] at cut
    rw [cut]
    exact List.not_mem_nil
  | cons c rest ih =>
    rw [pieces_cons] at cut
    split at cut
    · rcases List.mem_cons.mp cut with rfl | later
      · exact List.not_mem_nil
      · exact ih later
    · rename_i other
      obtain ⟨first, later, pieces⟩ := List.exists_cons_of_ne_nil (pieces_ne_nil separator rest)
      rw [pieces, List.modifyHead_cons] at cut
      rw [pieces] at ih
      rcases List.mem_cons.mp cut with rfl | among
      · exact List.not_mem_cons_of_ne_of_not_mem (Ne.symm other) (ih List.mem_cons_self)
      · exact ih (List.mem_cons_of_mem _ among)

theorem not_mem_of_mem_splitAt {separator : Char} {text piece : String}
    (cut : piece ∈ splitAt separator text) : separator ∉ piece.toList := by
  obtain ⟨letters, among, rfl⟩ := List.mem_map.mp cut
  rw [String.toList_ofList]
  exact not_mem_of_mem_pieces among

theorem splitAt_ne_nil (separator : Char) (text : String) : splitAt separator text ≠ [] :=
  mt List.map_eq_nil_iff.mp (pieces_ne_nil separator text.toList)

/-- Names without points are found again between the points that joined them. -/
theorem splitAt_dotted {path : FieldPath} (filled : path ≠ [])
    (plain : ∀ name ∈ path, '.' ∉ name.toList) : splitAt '.' path.dotted = path := by
  have joined : path.dotted.toList = ['.'].intercalate (path.map String.toList) :=
    String.toList_intercalate
  rw [splitAt, joined, pieces_eq_splitOn, List.splitOn_intercalate]
  · simp
  · simpa using plain
  · simpa using filled

/-- Texts that differ in case are cut alike. -/
theorem pieces_congr {separator : Char} (plain : separator.isAlpha = false)
    {left right : List Char} (same : List.Forall₂ SameLetter left right) :
    List.Forall₂ (List.Forall₂ SameLetter) (pieces separator left) (pieces separator right) := by
  induction same with
  | nil => exact .cons .nil .nil
  | @cons c d left right alike _ ih =>
    rw [pieces_cons, pieces_cons]
    by_cases point : c = separator
    · rw [if_pos point, if_pos ((alike.eq_iff plain).mp point)]
      exact .cons .nil ih
    · rw [if_neg point, if_neg (mt (alike.eq_iff plain).mpr point)]
      generalize pieces separator left = leftPieces at ih ⊢
      generalize pieces separator right = rightPieces at ih ⊢
      cases ih with
      | nil => exact .nil
      | cons first later => exact .cons (.cons alike first) later

theorem splitAt_congr {separator : Char} (plain : separator.isAlpha = false) {left right : String}
    (same : sameIgnoringCase left right = true) :
    List.Forall₂ (fun left right => sameIgnoringCase left right = true)
      (splitAt separator left) (splitAt separator right) := by
  rw [splitAt, splitAt, List.forall₂_map_left_iff, List.forall₂_map_right_iff]
  refine (pieces_congr plain (sameIgnoringCase_iff.mp same)).imp fun left right alike => ?_
  rw [sameIgnoringCase_iff, String.toList_ofList, String.toList_ofList]
  exact alike

/-! ## Lower case -/

/-- An ASCII letter has case and is no mark. -/
theorem cased_of_isAlpha {c : Char} (letter : c.isAlpha = true) :
    cased.contains c = true ∧ caseIgnorable.contains c = false := by
  have codes : ∀ code < 123, 65 ≤ code ∧ code ≤ 90 ∨ 97 ≤ code ∧ code ≤ 122 →
      CharSet.holds code false cased.bounds = true ∧
        CharSet.holds code false caseIgnorable.bounds = false := by
    decide +kernel
  have code := (isAlpha_iff c).mp letter
  exact codes c.toNat (by omega) code

theorem SameLetter.contains {c d : Char} (same : SameLetter c d) :
    cased.contains c = cased.contains d ∧
      caseIgnorable.contains c = caseIgnorable.contains d := by
  rcases same.eq_or_isAlpha with rfl | ⟨left, right⟩
  · exact ⟨rfl, rfl⟩
  · rw [(cased_of_isAlpha left).1, (cased_of_isAlpha left).2, (cased_of_isAlpha right).1,
      (cased_of_isAlpha right).2]
    exact ⟨rfl, rfl⟩

theorem meetsCased_cons (c : Char) (rest : List Char) :
    meetsCased (c :: rest) =
      if caseIgnorable.contains c then meetsCased rest else cased.contains c := by
  by_cases mark : caseIgnorable.contains c = true
  · rw [meetsCased, List.dropWhile_cons_of_pos mark, if_pos mark, meetsCased]
  · rw [meetsCased, List.dropWhile_cons_of_neg mark, if_neg mark]

theorem meetsCased_congr {left right : List Char} (same : List.Forall₂ SameLetter left right) :
    meetsCased left = meetsCased right := by
  induction same with
  | nil => rfl
  | @cons c d left right alike _ ih =>
    obtain ⟨case, mark⟩ := alike.contains
    rw [meetsCased_cons, meetsCased_cons, case, mark, ih]

theorem lowerChar_congr {c d : Char} {before before' after after' : List Char}
    (alike : SameLetter c d) (earlier : List.Forall₂ SameLetter before before')
    (later : List.Forall₂ SameLetter after after') :
    lowerChar before c after = lowerChar before' d after' := by
  rcases alike.eq_or_isAlpha with rfl | ⟨left, right⟩
  · rw [lowerChar, lowerChar, meetsCased_congr earlier, meetsCased_congr later]
  · have leftCode := (isAlpha_iff c).mp left
    have rightCode := (isAlpha_iff d).mp right
    rw [lowerChar, lowerChar, if_pos (by omega), if_pos (by omega), alike]

theorem lowerAfter_congr {before before' left right : List Char}
    (earlier : List.Forall₂ SameLetter before before')
    (same : List.Forall₂ SameLetter left right) :
    lowerAfter before left = lowerAfter before' right := by
  induction same generalizing before before' with
  | nil => rfl
  | cons alike later ih =>
    rw [lowerAfter, lowerAfter, lowerChar_congr alike earlier later, ih (.cons alike earlier)]

/-- The full lower case does not see the case of ASCII letters. -/
theorem lowercase_congr {left right : String} (same : sameIgnoringCase left right = true) :
    lowercase left = lowercase right := by
  rw [lowercase, lowercase, lowerAfter_congr .nil (sameIgnoringCase_iff.mp same)]

end ListQuery.Text
