import ListQuery.Value

/-! Two orders of values: a partial one between a value and a constant, which filters use, and
one of all values, which sorting uses. -/

namespace ListQuery.Value

/-- The order of a value and a constant of one kind; integers and floats are one kind. -/
def compareTo? : Value → Scalar → Option Ordering
  | int a, .int b => some (compare a.toInt b.toInt)
  | int a, .float b => (Binary64.ofInt a.toInt).compare? b
  | float a, .int b => a.compare? (Binary64.ofInt b.toInt)
  | float a, .float b => a.compare? b
  | text a, .text b => some (compare a b)
  | bool a, .bool b => some (compare a b)
  | instant a, .instant b => some (a.order b)
  | _, _ => none

/-- Equality of a value and a constant. Null equals null alone. -/
def equals (value : Value) (constant : Scalar) : Bool :=
  match value, constant with
  | null, .null => true
  | null, _ | _, .null => false
  | value, constant => value.compareTo? constant == some .eq

/-- The place of a kind of values in sorted lists: what is no number comes after everything but
null. -/
def rank : Value → Nat
  | bool _ => 0
  | float x => if x.isNaN then 6 else 1
  | int _ => 1
  | text _ => 2
  | instant _ => 3
  | list _ => 4
  | record _ => 5
  | null => 7

/-- The order of sorting: values of one kind by their order, others by their kind. -/
def sortCompare (a b : Value) : Ordering :=
  let byKind := compare a.rank b.rank
  match a, b with
  | int x, int y => compare x.toInt y.toInt
  | int x, float y => ((Binary64.ofInt x.toInt).compare? y).getD byKind
  | float x, int y => (x.compare? (Binary64.ofInt y.toInt)).getD byKind
  | float x, float y => (x.compare? y).getD byKind
  | text x, text y => compare x y
  | bool x, bool y => compare x y
  | instant x, instant y => x.order y
  | _, _ => byKind

end ListQuery.Value
