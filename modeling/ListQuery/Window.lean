/-! Windows: how much of a list is passed over and how much is kept. -/

namespace ListQuery

/-- The rows to pass over and the rows to keep at most. -/
structure Window where
  offset : Option Nat := none
  limit : Option Nat := none
deriving DecidableEq

namespace Window

/-- Only numbers above zero count. -/
def ofNumbers (offset limit : Option Int64) : Window :=
  ⟨positive offset, positive limit⟩
where
  positive (n : Option Int64) : Option Nat :=
    (n.filter fun n => 0 < n.toInt).map fun n => n.toInt.toNat

/-- Whether the window is the whole list. -/
def isEmpty (window : Window) : Bool :=
  window.offset.isNone && window.limit.isNone

/-- The rows in the window. -/
def apply {α : Type} (window : Window) (rows : List α) : List α :=
  let rest :=
    match window.offset with
    | some n => rows.drop n
    | none => rows
  match window.limit with
  | some n => rest.take n
  | none => rest

end Window

end ListQuery
