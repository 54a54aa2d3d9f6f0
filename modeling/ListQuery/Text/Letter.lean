import ListQuery.Text.Alphabetic
import ListQuery.Text.Numeric

/-! Letters and numbers as names use them. -/

namespace ListQuery.Text

/-- A letter: a character with the property `Alphabetic`. -/
def isLetter (c : Char) : Bool :=
  if c.toNat < 128 then c.isAlpha else alphabetic.contains c

/-- A digit or another number: a character of the general category `N`. -/
def isNumber (c : Char) : Bool :=
  if c.toNat < 128 then c.isDigit else numeric.contains c

end ListQuery.Text
