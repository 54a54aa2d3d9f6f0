/-! A text cut at a separating character, and pieces put together again. -/

namespace ListQuery.Text

/-- The pieces between the separators: one more than there are separators. -/
def pieces (separator : Char) : List Char → List (List Char)
  | [] => [[]]
  | c :: rest =>
    match pieces separator rest with
    | [] => [[c]]
    | first :: later => if c = separator then [] :: first :: later else (c :: first) :: later

/-- The pieces of a string. -/
def splitAt (separator : Char) (text : String) : List String :=
  (pieces separator text.toList).map String.ofList

/-- What stands before and after the first separator. -/
def cutAt (separator : Char) : List Char → Option (List Char × List Char)
  | [] => none
  | c :: rest =>
    if c = separator then some ([], rest)
    else (cutAt separator rest).map fun (before, after) => (c :: before, after)

theorem pieces_ne_nil (separator : Char) (text : List Char) : pieces separator text ≠ [] := by
  cases text with
  | nil => simp [pieces]
  | cons c rest =>
    simp only [pieces]
    split
    · simp
    · split <;> simp

/-- Whether a pattern occurs somewhere in a text. -/
def contains (pattern : List Char) : List Char → Bool
  | [] => pattern.isEmpty
  | c :: rest => pattern.isPrefixOf (c :: rest) || contains pattern rest

theorem contains_eq_true_iff {pattern text : List Char} :
    contains pattern text = true ↔ ∃ before rest, text = before ++ (pattern ++ rest) := by
  induction text with
  | nil =>
    constructor
    · intro empty
      exact ⟨[], [], by simpa [contains] using empty⟩
    · rintro ⟨before, rest, none⟩
      simp_all [contains]
  | cons c text ih =>
    simp only [contains, Bool.or_eq_true, List.isPrefixOf_iff_prefix, ih]
    constructor
    · rintro (⟨rest, here⟩ | ⟨before, rest, rfl⟩)
      · exact ⟨[], rest, here.symm⟩
      · exact ⟨c :: before, rest, rfl⟩
    · rintro ⟨before, rest, same⟩
      cases before with
      | nil => exact Or.inl ⟨rest, same.symm⟩
      | cons d before => exact Or.inr ⟨before, rest, (List.cons.inj same).2⟩

end ListQuery.Text
