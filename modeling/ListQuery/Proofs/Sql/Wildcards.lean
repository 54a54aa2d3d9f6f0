import ListQuery.Proofs.Sql.Pattern

/-! The rules of patterns, as a relation that the evaluation of conditions decides. A pattern
matches some text unless its last backslash has nothing after it. No pattern that is made of a text
is of that kind, and each matches the texts that hold its own text at its place and no others. -/

namespace ListQuery.Sql

/-- A pattern matches a text: a percent sign takes any run of characters, an underscore any one
character, a backslash the very character that comes after it, and every other character takes
itself. -/
inductive Like : List Char → List Char → Prop where
  | nil : Like [] []
  | run {pattern rest : List Char} (taken : List Char) (onward : Like pattern rest) :
    Like ('%' :: pattern) (taken ++ rest)
  | one {pattern rest : List Char} (c : Char) (onward : Like pattern rest) :
    Like ('_' :: pattern) (c :: rest)
  | escaped {pattern rest : List Char} (c : Char) (onward : Like pattern rest) :
    Like ('\\' :: c :: pattern) (c :: rest)
  | plain {pattern rest : List Char} {c : Char} (percent : c ≠ '%') (underscore : c ≠ '_')
    (backslash : c ≠ '\\') (onward : Like pattern rest) : Like (c :: pattern) (c :: rest)

/-- The last backslash of a pattern has no character after it that it could make stand for
itself. -/
def Dangles : List Char → Prop
  | [] => False
  | ['\\'] => True
  | '\\' :: _ :: pattern => Dangles pattern
  | _ :: pattern => Dangles pattern

/-- Patterns one piece at a time: what matches a run or one character, an escaped character, and a
character that stands for itself. -/
@[elab_as_elim]
theorem pattern_induction {motive : List Char → Prop} (pattern : List Char) (nil : motive [])
    (dangling : motive ['\\']) (run : ∀ pattern, motive pattern → motive ('%' :: pattern))
    (one : ∀ pattern, motive pattern → motive ('_' :: pattern))
    (escaped : ∀ c pattern, motive pattern → motive ('\\' :: c :: pattern))
    (plain : ∀ c pattern, c ≠ '%' → c ≠ '_' → c ≠ '\\' → motive pattern → motive (c :: pattern)) :
    motive pattern := by
  induction pattern using Dangles.induct with
  | case1 => exact nil
  | case2 => exact dangling
  | case3 c pattern ih => exact escaped c pattern ih
  | case4 c pattern lone paired ih =>
    have backslash : c ≠ '\\' := by
      rintro rfl
      cases pattern with
      | nil => exact lone rfl rfl
      | cons d rest => exact paired d rest rfl rfl
    by_cases percent : c = '%'
    · exact percent ▸ run pattern ih
    by_cases underscore : c = '_'
    · exact underscore ▸ one pattern ih
    exact plain c pattern percent underscore backslash ih

theorem isLike_underscore {pattern text : List Char} :
    isLike ('_' :: pattern) text = true ↔
      ∃ c rest, text = c :: rest ∧ isLike pattern rest = true := by
  cases text with
  | nil => simp [isLike]
  | cons d rest =>
    constructor
    · intro matched
      exact ⟨d, rest, rfl, matched⟩
    · rintro ⟨_, _, same, matched⟩
      obtain ⟨rfl, rfl⟩ := List.cons.inj same
      exact matched

/-- The evaluation of conditions goes by the rules. -/
theorem isLike_iff_like {pattern text : List Char} :
    isLike pattern text = true ↔ Like pattern text := by
  constructor
  · intro matched
    induction pattern using pattern_induction generalizing text with
    | nil =>
      rw [isLike_nil.mp matched]
      exact .nil
    | dangling => simp [isLike] at matched
    | run pattern ih =>
      obtain ⟨taken, rest, rfl, onward⟩ := isLike_percent.mp matched
      exact .run taken (ih onward)
    | one pattern ih =>
      obtain ⟨c, rest, rfl, onward⟩ := isLike_underscore.mp matched
      exact .one c (ih onward)
    | escaped c pattern ih =>
      obtain ⟨rest, rfl, onward⟩ := isLike_escaped.mp matched
      exact .escaped c (ih onward)
    | plain c pattern percent underscore backslash ih =>
      obtain ⟨rest, rfl, onward⟩ := (isLike_plain percent underscore backslash).mp matched
      exact .plain percent underscore backslash (ih onward)
  · intro matched
    induction matched with
    | nil => exact isLike_nil.mpr rfl
    | run taken _ ih => exact isLike_percent.mpr ⟨taken, _, rfl, ih⟩
    | one c _ ih => exact isLike_underscore.mpr ⟨c, _, rfl, ih⟩
    | escaped c _ ih => exact isLike_escaped.mpr ⟨_, rfl, ih⟩
    | plain percent underscore backslash _ ih =>
      exact (isLike_plain percent underscore backslash).mpr ⟨_, rfl, ih⟩

theorem dangles_cons {c : Char} (backslash : c ≠ '\\') (pattern : List Char) :
    Dangles (c :: pattern) ↔ Dangles pattern := by
  rw [Dangles]
  all_goals simp [backslash]

/-- A pattern dangles exactly when no text matches it. -/
theorem exists_like_iff {pattern : List Char} :
    (∃ text, Like pattern text) ↔ ¬ Dangles pattern := by
  constructor
  · rintro ⟨text, matched⟩
    induction matched with
    | nil => exact not_false
    | run taken _ ih => rwa [dangles_cons (by decide)]
    | one c _ ih => rwa [dangles_cons (by decide)]
    | escaped c _ ih => exact ih
    | plain percent underscore backslash _ ih => rwa [dangles_cons backslash]
  · intro whole
    induction pattern using pattern_induction with
    | nil => exact ⟨[], .nil⟩
    | dangling => exact absurd trivial whole
    | run pattern ih =>
      obtain ⟨rest, onward⟩ := ih (by rwa [dangles_cons (by decide)] at whole)
      exact ⟨rest, .run [] onward⟩
    | one pattern ih =>
      obtain ⟨rest, onward⟩ := ih (by rwa [dangles_cons (by decide)] at whole)
      exact ⟨'_' :: rest, .one '_' onward⟩
    | escaped c pattern ih =>
      obtain ⟨rest, onward⟩ := ih whole
      exact ⟨c :: rest, .escaped c onward⟩
    | plain c pattern percent underscore backslash ih =>
      obtain ⟨rest, onward⟩ := ih (by rwa [dangles_cons backslash] at whole)
      exact ⟨c :: rest, .plain percent underscore backslash onward⟩

/-- The pattern of a text with a percent sign before and after it matches the texts that contain
it, the one with a percent sign after it those that start with it, and the one with a percent sign
before it those that end with it: wildcards and backslashes in the text stand for themselves. None
of these patterns dangles. -/
theorem patterns_match_literal_text (raw text : String) :
    (Like (likePattern .contains raw).toList text.toList ↔ raw.toList <:+: text.toList) ∧
    (Like (likePattern .startsWith raw).toList text.toList ↔ raw.toList <+: text.toList) ∧
    (Like (likePattern .endsWith raw).toList text.toList ↔ raw.toList <:+ text.toList) ∧
    ∀ position, ¬ Dangles (likePattern position raw).toList := by
  have decided (position : TextMatch) (text : String) :
      Like (likePattern position raw).toList text.toList ↔ position.holds raw text = true := by
    rw [← isLike_iff_like, isLike_likePattern]
  have inside : TextMatch.contains.holds raw text = true ↔ raw.toList <:+: text.toList := by
    rw [TextMatch.holds, Text.contains_eq_true_iff]
    constructor
    · rintro ⟨before, rest, same⟩
      exact ⟨before, rest, by rw [same, List.append_assoc]⟩
    · rintro ⟨before, rest, same⟩
      exact ⟨before, rest, by rw [← same, List.append_assoc]⟩
  refine ⟨(decided _ _).trans inside, (decided _ _).trans List.isPrefixOf_iff_prefix,
    (decided _ _).trans List.isSuffixOf_iff_suffix, fun position => ?whole⟩
  -- The text itself matches its pattern.
  have itself : position.holds raw raw = true := by
    cases position with
    | contains => exact Text.contains_eq_true_iff.mpr ⟨[], [], by simp⟩
    | startsWith => exact List.isPrefixOf_iff_prefix.mpr (List.prefix_refl _)
    | endsWith => exact List.isSuffixOf_iff_suffix.mpr (List.suffix_refl _)
  exact exists_like_iff.mp ⟨_, (decided position raw).mpr itself⟩

end ListQuery.Sql
