import ListQuery.Proofs.Sql.Evaluation

/-! Patterns made of texts. Every character of a text stands for itself in its pattern, so a
text matches the pattern of a position exactly when it holds the pattern's text there. -/

namespace ListQuery.Sql

theorem afterRun_eq_true_iff {test : List Char → Bool} {text : List Char} :
    afterRun test text = true ↔ ∃ run rest, text = run ++ rest ∧ test rest = true := by
  induction text with
  | nil =>
    simp only [afterRun, List.nil_eq_append_iff]
    constructor
    · intro found
      exact ⟨[], [], ⟨rfl, rfl⟩, found⟩
    · rintro ⟨_, _, ⟨rfl, rfl⟩, found⟩
      exact found
  | cons c text ih =>
    simp only [afterRun, Bool.or_eq_true, ih]
    constructor
    · rintro (here | ⟨run, rest, rfl, later⟩)
      · exact ⟨[], c :: text, rfl, here⟩
      · exact ⟨c :: run, rest, rfl, later⟩
    · rintro ⟨run, rest, same, found⟩
      cases run with
      | nil => exact Or.inl (by rw [List.nil_append] at same; rw [same]; exact found)
      | cons d run =>
        obtain ⟨rfl, rfl⟩ := List.cons.inj same
        exact Or.inr ⟨run, rest, rfl, found⟩

/-- A character that the pattern language gives no meaning stands for itself. -/
theorem isLike_plain {c : Char} (percent : c ≠ '%') (underscore : c ≠ '_') (backslash : c ≠ '\\')
    {pattern text : List Char} :
    isLike (c :: pattern) text = true ↔
      ∃ rest, text = c :: rest ∧ isLike pattern rest = true := by
  cases text with
  | nil => simp [isLike, backslash]
  | cons d rest =>
    have step : isLike (c :: pattern) (d :: rest) = (d == c && isLike pattern rest) := by
      simp [isLike, backslash]
    rw [step, Bool.and_eq_true, beq_iff_eq]
    constructor
    · rintro ⟨rfl, matched⟩
      exact ⟨rest, rfl, matched⟩
    · rintro ⟨_, same, matched⟩
      obtain ⟨rfl, rfl⟩ := List.cons.inj same
      exact ⟨rfl, matched⟩

/-- After a backslash every character stands for itself. -/
theorem isLike_escaped {c : Char} {pattern text : List Char} :
    isLike ('\\' :: c :: pattern) text = true ↔
      ∃ rest, text = c :: rest ∧ isLike pattern rest = true := by
  cases text with
  | nil => simp [isLike]
  | cons d rest =>
    rw [isLike, Bool.and_eq_true, beq_iff_eq]
    constructor
    · rintro ⟨rfl, matched⟩
      exact ⟨rest, rfl, matched⟩
    · rintro ⟨_, same, matched⟩
      obtain ⟨rfl, rfl⟩ := List.cons.inj same
      exact ⟨rfl, matched⟩

/-- The pattern of a character takes that character from the text. -/
theorem isLike_escapeLike_cons (c : Char) (raw pattern text : List Char) :
    isLike (escapeLike (c :: raw) ++ pattern) text = true ↔
      ∃ rest, text = c :: rest ∧ isLike (escapeLike raw ++ pattern) rest = true := by
  by_cases special : c = '%' ∨ c = '_' ∨ c = '\\'
  · have spelling : escapeLike (c :: raw) = '\\' :: c :: escapeLike raw := by
      rcases special with rfl | rfl | rfl <;> simp [escapeLike]
    rw [spelling]
    exact isLike_escaped
  · obtain ⟨percent, others⟩ := not_or.mp special
    obtain ⟨underscore, backslash⟩ := not_or.mp others
    have spelling : escapeLike (c :: raw) = c :: escapeLike raw := by
      simp [escapeLike, percent, underscore, backslash]
    rw [spelling]
    exact isLike_plain percent underscore backslash

theorem isLike_escapeLike_append (raw pattern text : List Char) :
    isLike (escapeLike raw ++ pattern) text = true ↔
      ∃ rest, text = raw ++ rest ∧ isLike pattern rest = true := by
  induction raw generalizing text with
  | nil => simp [escapeLike]
  | cons c raw ih =>
    rw [isLike_escapeLike_cons]
    constructor
    · rintro ⟨rest, rfl, matched⟩
      obtain ⟨after, rfl, onward⟩ := (ih rest).mp matched
      exact ⟨after, rfl, onward⟩
    · rintro ⟨after, rfl, matched⟩
      exact ⟨raw ++ after, rfl, (ih _).mpr ⟨after, rfl, matched⟩⟩

theorem isLike_nil {text : List Char} : isLike [] text = true ↔ text = [] := by
  simp [isLike]

theorem isLike_percent {pattern text : List Char} :
    isLike ('%' :: pattern) text = true ↔
      ∃ run rest, text = run ++ rest ∧ isLike pattern rest = true :=
  afterRun_eq_true_iff

theorem isLike_percent_end (text : List Char) : isLike ['%'] text = true :=
  isLike_percent.mpr ⟨text, [], (List.append_nil text).symm, isLike_nil.mpr rfl⟩

/-- A text matches the pattern of a position exactly when it holds the pattern's text there. -/
theorem isLike_likePattern (position : TextMatch) (pattern text : String) :
    isLike (likePattern position pattern).toList text.toList = position.holds pattern text := by
  rw [Bool.eq_iff_iff]
  cases position with
  | contains =>
    simp only [likePattern, String.toList_ofList, TextMatch.holds, Text.contains_eq_true_iff,
      isLike_percent, isLike_escapeLike_append]
    constructor
    · rintro ⟨run, _, same, rest, rfl, -⟩
      exact ⟨run, rest, same⟩
    · rintro ⟨run, rest, same⟩
      exact ⟨run, _, same, rest, rfl, isLike_percent.mp (isLike_percent_end rest)⟩
  | startsWith =>
    simp only [likePattern, String.toList_ofList, TextMatch.holds, List.isPrefixOf_iff_prefix,
      isLike_escapeLike_append]
    constructor
    · rintro ⟨rest, same, -⟩
      exact ⟨rest, same.symm⟩
    · rintro ⟨rest, same⟩
      exact ⟨rest, same.symm, isLike_percent_end rest⟩
  | endsWith =>
    have whole : ∀ rest, isLike (escapeLike pattern.toList) rest = true ↔
        rest = pattern.toList := by
      intro rest
      have closed := isLike_escapeLike_append pattern.toList [] rest
      rw [List.append_nil] at closed
      rw [closed]
      constructor
      · rintro ⟨_, same, empty⟩
        rw [same, isLike_nil.mp empty, List.append_nil]
      · rintro rfl
        exact ⟨[], (List.append_nil _).symm, isLike_nil.mpr rfl⟩
    simp only [likePattern, String.toList_ofList, TextMatch.holds, List.isSuffixOf_iff_suffix,
      isLike_percent, whole]
    constructor
    · rintro ⟨run, _, same, rfl⟩
      exact ⟨run, same.symm⟩
    · rintro ⟨run, same⟩
      exact ⟨run, _, same.symm, rfl⟩

end ListQuery.Sql
