import ListQuery.Predicate
import ListQuery.Proofs.Text.Case

/-! The lower case of a text that holds a pattern. Each character has one small letter wherever it
stands, but for the capital sigma, which looks for the nearest characters on both sides. A pattern
is lowered alone, so a sigma whose nearest characters are not all in the pattern may come out
otherwise than in the text around it. -/

namespace ListQuery.Text

/-- Whether the nearest character that is no mark has case, if there is one. -/
def nearest? (neighbours : List Char) : Option Bool :=
  (neighbours.dropWhile caseIgnorable.contains).head?.map cased.contains

theorem nearest?_cons (c : Char) (rest : List Char) :
    nearest? (c :: rest) =
      if caseIgnorable.contains c then nearest? rest else some (cased.contains c) := by
  by_cases mark : caseIgnorable.contains c = true
  · rw [nearest?, List.dropWhile_cons_of_pos mark, if_pos mark, nearest?]
  · rw [nearest?, List.dropWhile_cons_of_neg mark, if_neg mark]
    rfl

/-- What is near stands before what is far. -/
theorem nearest?_append (near far : List Char) :
    nearest? (near ++ far) = (nearest? near).or (nearest? far) := by
  induction near with
  | nil => rfl
  | cons c rest ih =>
    rw [List.cons_append, nearest?_cons, nearest?_cons, ih]
    split <;> rfl

theorem meetsCased_iff (neighbours : List Char) :
    meetsCased neighbours = true ↔ nearest? neighbours = some true := by
  induction neighbours with
  | nil => simp [meetsCased, nearest?]
  | cons c rest ih =>
    rw [meetsCased_cons, nearest?_cons]
    split
    · exact ih
    · rw [Option.some.injEq]

/-- A capital sigma ends a word when a letter with case stands before it and none after it. -/
theorem lowerChar_sigma (before after : List Char) :
    lowerChar before 'Σ' after =
      if nearest? before = some true ∧ nearest? after ≠ some true then ['ς'] else ['σ'] := by
  rw [lowerChar, if_neg (by decide), if_pos rfl]
  simp only [Bool.and_eq_true, Bool.not_eq_true', ← Bool.not_eq_true, meetsCased_iff, ne_eq]

/-- No other character looks around. -/
theorem lowerChar_of_ne_sigma {c : Char} (other : c ≠ 'Σ')
    (before before' after after' : List Char) :
    lowerChar before c after = lowerChar before' c after' := by
  simp only [lowerChar, if_neg other]

/-! ## Parts of a text -/

/-- The lower case of a part of a text, with what stands before it, nearest first, and after it. -/
def lowerBetween (before : List Char) : List Char → List Char → List Char
  | [], _ => []
  | c :: rest, after => lowerChar before c (rest ++ after) ++ lowerBetween (c :: before) rest after

theorem lowerBetween_nil (before part : List Char) :
    lowerBetween before part [] = lowerAfter before part := by
  induction part generalizing before with
  | nil => rfl
  | cons c rest ih => rw [lowerBetween, List.append_nil, ih, lowerAfter]

theorem lowerBetween_append (before part part' after : List Char) :
    lowerBetween before (part ++ part') after =
      lowerBetween before part (part' ++ after) ++
        lowerBetween (part.reverse ++ before) part' after := by
  induction part generalizing before with
  | nil => rfl
  | cons c rest ih =>
    rw [List.cons_append, lowerBetween, ih, lowerBetween, List.append_assoc, List.append_assoc,
      List.reverse_cons, List.append_assoc, List.singleton_append]

/-- The lower case of a part of a text stands in that of the text. -/
theorem lowerAfter_around (before part after : List Char) :
    lowerAfter [] (before ++ (part ++ after)) =
      lowerBetween [] before (part ++ after) ++
        (lowerBetween before.reverse part after ++
          lowerAfter (part.reverse ++ before.reverse) after) := by
  rw [← lowerBetween_nil, lowerBetween_append, lowerBetween_append, List.append_nil,
    List.append_nil, List.append_nil, lowerBetween_nil]

/-- Parts of two texts are lowered alike when their sigmas are. -/
theorem lowerBetween_congr {before before' part after after' : List Char}
    (sigmas : ∀ front back, part = front ++ 'Σ' :: back →
      lowerChar (front.reverse ++ before) 'Σ' (back ++ after) =
        lowerChar (front.reverse ++ before') 'Σ' (back ++ after')) :
    lowerBetween before part after = lowerBetween before' part after' := by
  induction part generalizing before before' with
  | nil => rfl
  | cons c rest ih =>
    have here : lowerChar before c (rest ++ after) = lowerChar before' c (rest ++ after') := by
      by_cases sigma : c = 'Σ'
      · rw [sigma] at sigmas ⊢
        exact sigmas [] rest rfl
      · exact lowerChar_of_ne_sigma sigma ..
    rw [lowerBetween, lowerBetween, here, ih]
    intro front back split
    have later := sigmas (c :: front) back (by rw [split]; rfl)
    rwa [List.reverse_cons, List.append_assoc, List.append_assoc, List.singleton_append] at later

/-! ## Patterns -/

/-- A pattern with a sigma, what stands before it, nearest first, and after it being so. -/
def HasSigma (so : List Char → List Char → Bool) (pattern : List Char) : Prop :=
  ∃ front back, pattern = front ++ 'Σ' :: back ∧ so front.reverse back = true

/-- The search for such a sigma, what stands before the rest of the pattern being known. -/
def findSigma (so : List Char → List Char → Bool) (before : List Char) : List Char → Bool
  | [] => false
  | c :: rest => c == 'Σ' && so before rest || findSigma so (c :: before) rest

theorem findSigma_iff (so : List Char → List Char → Bool) (before pattern : List Char) :
    findSigma so before pattern = true ↔
      ∃ front back, pattern = front ++ 'Σ' :: back ∧ so (front.reverse ++ before) back = true := by
  induction pattern generalizing before with
  | nil => simp [findSigma]
  | cons c rest ih =>
    rw [findSigma, Bool.or_eq_true, ih, Bool.and_eq_true, beq_iff_eq]
    constructor
    · rintro (⟨rfl, here⟩ | ⟨front, back, rfl, later⟩)
      · exact ⟨[], rest, rfl, here⟩
      · exact ⟨c :: front, back, rfl, by simpa using later⟩
    · rintro ⟨front, back, split, found⟩
      cases front with
      | nil =>
        obtain ⟨rfl, rfl⟩ := List.cons.inj split
        exact Or.inl ⟨rfl, found⟩
      | cons d front =>
        obtain ⟨rfl, rfl⟩ := List.cons.inj split
        exact Or.inr ⟨front, back, rfl, by simpa using found⟩

instance (so : List Char → List Char → Bool) (pattern : List Char) :
    Decidable (HasSigma so pattern) :=
  decidable_of_iff (findSigma so [] pattern = true)
    (by simp only [findSigma_iff, List.append_nil, HasSigma])

/-- Some sigma has no letter before it in the pattern and no letter with case next after it. A
letter with case before the pattern would make it end a word. -/
def OpenBefore : List Char → Prop :=
  HasSigma fun before after => nearest? before == none && nearest? after != some true

/-- Some sigma ends a word in the pattern, and no letter stands after it in the pattern. A letter
with case after the pattern would make it end none. -/
def OpenAfter : List Char → Prop :=
  HasSigma fun before after => nearest? before == some true && nearest? after == none

instance (pattern : List Char) : Decidable (OpenBefore pattern) :=
  inferInstanceAs (Decidable (HasSigma _ pattern))

instance (pattern : List Char) : Decidable (OpenAfter pattern) :=
  inferInstanceAs (Decidable (HasSigma _ pattern))

/-- A pattern that is lowered alone as it is in any text around it. -/
theorem lowerBetween_of_settled {before pattern after : List Char}
    (early : OpenBefore pattern → nearest? before ≠ some true)
    (late : OpenAfter pattern → nearest? after ≠ some true) :
    lowerBetween before pattern after = lowerAfter [] pattern := by
  rw [← lowerBetween_nil]
  refine lowerBetween_congr fun front back split => ?_
  have early (opens : nearest? front.reverse = none) (ends : nearest? back ≠ some true) :
      nearest? before ≠ some true :=
    early ⟨front, back, split, by simp [opens, ends]⟩
  have late (cased : nearest? front.reverse = some true) (ends : nearest? back = none) :
      nearest? after ≠ some true :=
    late ⟨front, back, split, by simp [cased, ends]⟩
  rw [lowerChar_sigma, lowerChar_sigma, nearest?_append, nearest?_append, List.append_nil,
    List.append_nil]
  rcases opens : nearest? front.reverse with _ | _ | _ <;>
    rcases ends : nearest? back with _ | _ | _ <;> simp_all

/-- Where no sigma gives more of a letter, no part of a text does. -/
theorem count_lowerBetween_le {d : Char} {before before' after after' : List Char}
    (sigma : ∀ near far, (lowerChar (near ++ before) 'Σ' (far ++ after)).count d ≤
      (lowerChar (near ++ before') 'Σ' (far ++ after')).count d) (part : List Char) :
    (lowerBetween before part after).count d ≤ (lowerBetween before' part after').count d := by
  induction part generalizing before before' with
  | nil => exact Nat.le_refl 0
  | cons c rest ih =>
    have here : (lowerChar before c (rest ++ after)).count d ≤
        (lowerChar before' c (rest ++ after')).count d := by
      by_cases other : c = 'Σ'
      · rw [other]
        exact sigma [] rest
      · exact Nat.le_of_eq (congrArg (List.count d) (lowerChar_of_ne_sigma other ..))
    have later : (lowerBetween (c :: before) rest after).count d ≤
        (lowerBetween (c :: before') rest after').count d := by
      refine ih fun near far => ?_
      have one := sigma (near ++ [c]) far
      rwa [List.append_assoc, List.append_assoc] at one
    rw [lowerBetween, lowerBetween, List.count_append, List.count_append]
    exact Nat.add_le_add here later

/-- Where one sigma gives less of a letter and none more, the pattern has less of it. -/
theorem count_lowerBetween_lt {d : Char} {before before' front back after after' : List Char}
    (sigma : ∀ near far, (lowerChar (near ++ before) 'Σ' (far ++ after)).count d ≤
      (lowerChar (near ++ before') 'Σ' (far ++ after')).count d)
    (less : (lowerChar (front.reverse ++ before) 'Σ' (back ++ after)).count d <
      (lowerChar (front.reverse ++ before') 'Σ' (back ++ after')).count d) :
    (lowerBetween before (front ++ 'Σ' :: back) after).count d <
      (lowerBetween before' (front ++ 'Σ' :: back) after').count d := by
  have first : (lowerBetween before front ('Σ' :: back ++ after)).count d ≤
      (lowerBetween before' front ('Σ' :: back ++ after')).count d := by
    refine count_lowerBetween_le (fun near far => ?_) front
    have one := sigma near (far ++ 'Σ' :: back)
    rwa [List.append_assoc, List.append_assoc] at one
  have last : (lowerBetween ('Σ' :: (front.reverse ++ before)) back after).count d ≤
      (lowerBetween ('Σ' :: (front.reverse ++ before')) back after').count d := by
    refine count_lowerBetween_le (fun near far => ?_) back
    have one := sigma (near ++ 'Σ' :: front.reverse) far
    rwa [List.append_assoc, List.append_assoc] at one
  rw [lowerBetween_append, lowerBetween_append, lowerBetween, lowerBetween]
  simp only [List.count_append]
  omega

theorem lowerChar_small_a (before after : List Char) : lowerChar before 'a' after = ['a'] :=
  rfl

theorem nearest?_small_a : nearest? ['a'] = some true := by
  decide +kernel

/-- A sigma that ends a word in the pattern ends none when a letter follows. -/
theorem not_sublist_of_openAfter {pattern : List Char} (opened : OpenAfter pattern) :
    ¬ (lowerAfter [] pattern).Sublist (lowerAfter [] (pattern ++ ['a'])) := by
  intro within
  obtain ⟨front, back, split, opens⟩ := opened
  obtain ⟨cased, ends⟩ : nearest? front.reverse = some true ∧ nearest? back = none := by
    simpa using opens
  have fewer :
      (lowerBetween [] pattern ['a']).count 'ς' < (lowerBetween [] pattern []).count 'ς' := by
    rw [split]
    refine count_lowerBetween_lt (fun near far => ?_) ?_
    · simp only [lowerChar_sigma, nearest?_append, nearest?_small_a]
      rcases nearest? near with _ | _ | _ <;> rcases nearest? far with _ | _ | _ <;> decide
    · simp only [lowerChar_sigma, nearest?_append, nearest?_small_a, cased, ends]
      decide
  have around := lowerAfter_around [] pattern ['a']
  rw [List.nil_append] at around
  rw [around, ← lowerBetween_nil] at within
  have counted := within.count_le 'ς'
  simp [lowerBetween, lowerAfter, lowerChar_small_a] at counted
  omega

/-- A sigma that ends no word in the pattern ends one when a letter stands before. -/
theorem not_sublist_of_openBefore {pattern : List Char} (opened : OpenBefore pattern) :
    ¬ (lowerAfter [] pattern).Sublist (lowerAfter [] ('a' :: pattern)) := by
  intro within
  obtain ⟨front, back, split, opens⟩ := opened
  obtain ⟨none, ends⟩ : nearest? front.reverse = none ∧ nearest? back ≠ some true := by
    simpa using opens
  have fewer :
      (lowerBetween ['a'] pattern []).count 'σ' < (lowerBetween [] pattern []).count 'σ' := by
    rw [split]
    refine count_lowerBetween_lt (fun near far => ?_) ?_
    · simp only [lowerChar_sigma, nearest?_append, nearest?_small_a]
      rcases nearest? near with _ | _ | _ <;> rcases nearest? far with _ | _ | _ <;> decide
    · simp only [lowerChar_sigma, nearest?_append, nearest?_small_a, none]
      rcases cased : nearest? back with _ | _ | _
      · decide
      · decide
      · exact absurd cased ends
  rw [lowerAfter, lowerChar_small_a, ← lowerBetween_nil, ← lowerBetween_nil] at within
  have counted := within.count_le 'σ'
  rw [List.count_append] at counted
  have apart : List.count 'σ' ['a'] = 0 := by decide
  omega

/-- A pattern that is lowered alone as it is in any text that holds it at a position. -/
def Settled : TextMatch → String → Prop
  | .contains, pattern => ¬ OpenBefore pattern.toList ∧ ¬ OpenAfter pattern.toList
  | .startsWith, pattern => ¬ OpenAfter pattern.toList
  | .endsWith, pattern => ¬ OpenBefore pattern.toList

instance (position : TextMatch) (pattern : String) : Decidable (Settled position pattern) :=
  match position with
  | .contains =>
    inferInstanceAs (Decidable (¬ OpenBefore pattern.toList ∧ ¬ OpenAfter pattern.toList))
  | .startsWith => inferInstanceAs (Decidable (¬ OpenAfter pattern.toList))
  | .endsWith => inferInstanceAs (Decidable (¬ OpenBefore pattern.toList))

theorem sublist_of_holds {position : TextMatch} {pattern text : String}
    (held : position.holds pattern text = true) : pattern.toList.Sublist text.toList := by
  cases position with
  | contains =>
    obtain ⟨before, after, whole⟩ := contains_eq_true_iff.mp held
    rw [whole]
    exact (List.sublist_append_left _ _).trans (List.sublist_append_right _ _)
  | startsWith => exact (List.isPrefixOf_iff_prefix.mp held).sublist
  | endsWith => exact (List.isSuffixOf_iff_suffix.mp held).sublist

section Widens
variable {position : TextMatch} {pattern : String}
  (widens : ∀ text, position.holds pattern text = true →
    position.holds (lowercase pattern) (lowercase text) = true)

include widens

theorem not_openBefore_of_widens
    (held : position.holds pattern (String.ofList ('a' :: pattern.toList)) = true) :
    ¬ OpenBefore pattern.toList := by
  intro opened
  have within := sublist_of_holds (widens _ held)
  rw [lowercase, lowercase, String.toList_ofList, String.toList_ofList, String.toList_ofList]
    at within
  exact not_sublist_of_openBefore opened within

theorem not_openAfter_of_widens
    (held : position.holds pattern (String.ofList (pattern.toList ++ ['a'])) = true) :
    ¬ OpenAfter pattern.toList := by
  intro opened
  have within := sublist_of_holds (widens _ held)
  rw [lowercase, lowercase, String.toList_ofList, String.toList_ofList, String.toList_ofList]
    at within
  exact not_sublist_of_openAfter opened within

end Widens

/-- Texts that hold a pattern still hold it in lower case, whatever else they hold, exactly when the
pattern is settled. -/
theorem holds_lowercase_iff (position : TextMatch) (pattern : String) :
    (∀ text, position.holds pattern text = true →
      position.holds (lowercase pattern) (lowercase text) = true) ↔ Settled position pattern := by
  have none : nearest? [] ≠ some true := nofun
  constructor
  · intro widens
    cases position with
    | contains =>
      exact ⟨not_openBefore_of_widens widens (contains_eq_true_iff.mpr ⟨['a'], [], by simp⟩),
        not_openAfter_of_widens widens (contains_eq_true_iff.mpr ⟨[], ['a'], by simp⟩)⟩
    | startsWith =>
      exact not_openAfter_of_widens widens
        (List.isPrefixOf_iff_prefix.mpr ⟨['a'], by rw [String.toList_ofList]⟩)
    | endsWith =>
      exact not_openBefore_of_widens widens
        (List.isSuffixOf_iff_suffix.mpr ⟨['a'], by rw [String.toList_ofList]; rfl⟩)
  · intro settled text held
    cases position with
    | contains =>
      obtain ⟨early, late⟩ := settled
      obtain ⟨before, after, whole⟩ := contains_eq_true_iff.mp held
      have around := lowerAfter_around before pattern.toList after
      rw [lowerBetween_of_settled (absurd · early) (absurd · late), ← whole] at around
      simp only [TextMatch.holds, contains_eq_true_iff, lowercase, String.toList_ofList]
      rw [around]
      exact ⟨_, _, rfl⟩
    | startsWith =>
      obtain ⟨after, whole⟩ := List.isPrefixOf_iff_prefix.mp held
      have around := lowerAfter_around [] pattern.toList after
      rw [List.nil_append, whole, List.reverse_nil,
        lowerBetween_of_settled (fun _ => none) (absurd · settled)] at around
      simp only [TextMatch.holds, List.isPrefixOf_iff_prefix, lowercase, String.toList_ofList]
      rw [around]
      exact ⟨_, rfl⟩
    | endsWith =>
      obtain ⟨before, whole⟩ := List.isSuffixOf_iff_suffix.mp held
      have around := lowerAfter_around before pattern.toList []
      rw [List.append_nil, whole, lowerBetween_of_settled (absurd · settled) (fun _ => none),
        lowerAfter, List.append_nil] at around
      simp only [TextMatch.holds, List.isSuffixOf_iff_suffix, lowercase, String.toList_ofList]
      rw [around]
      exact ⟨_, rfl⟩

end ListQuery.Text
