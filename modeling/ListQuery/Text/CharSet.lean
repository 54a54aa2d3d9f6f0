/-! Sets of characters given by the code points where membership changes. -/

namespace ListQuery.Text

/-- The bounds of a set in increasing order. A code point belongs to the set when the number of
bounds at or below it is odd. -/
structure CharSet where
  bounds : List Nat

namespace CharSet

/-- Membership of a code point, read off increasing bounds. -/
def holds (code : Nat) : Bool → List Nat → Bool
  | inside, [] => inside
  | inside, bound :: later => if code < bound then inside else holds code (!inside) later

/-- Whether a character belongs to the set. -/
def contains (set : CharSet) (c : Char) : Bool :=
  holds c.toNat false set.bounds

end CharSet

end ListQuery.Text
