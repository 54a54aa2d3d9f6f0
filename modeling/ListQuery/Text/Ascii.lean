/-! Texts compared without regard to the case of ASCII letters. All other characters count as
they are: the rule for keywords, literals and declared field names. -/

namespace ListQuery.Text

/-- A text with its ASCII capitals made small. -/
def asciiLower (text : List Char) : List Char :=
  text.map Char.toLower

/-- Two texts agree when they differ at most in the case of ASCII letters. -/
def sameIgnoringCase (left right : String) : Bool :=
  asciiLower left.toList == asciiLower right.toList

theorem sameIgnoringCase_comm (left right : String) :
    sameIgnoringCase left right = sameIgnoringCase right left := by
  simp [sameIgnoringCase, Bool.beq_comm]

/-- Texts that agree with each other agree with the same texts. -/
theorem sameIgnoringCase_congr {left right : String} (same : sameIgnoringCase left right = true)
    (other : String) : sameIgnoringCase left other = sameIgnoringCase right other := by
  simp only [sameIgnoringCase, beq_iff_eq] at same ⊢
  rw [same]

end ListQuery.Text
