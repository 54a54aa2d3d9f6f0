import ListQuery.Filter.Operator
import ListQuery.Text.Escaped
import ListQuery.Text.Term

/-! Filters as trees. -/

namespace ListQuery

namespace Filter

/-- How many elements of a collection have to pass. -/
inductive Quantifier where
  | any
  | all
deriving DecidableEq

/-- The quantifier's name. -/
def Quantifier.name : Quantifier → String
  | any => "Any"
  | all => "All"

end Filter

open ListQuery.Filter

/-- A filter. Every node can be negated; the negation of a joined pair applies to the result
and not to its sides. -/
inductive Filter where
  /-- A property compared with literals, of which `none` is null. -/
  | clause (property : String) (operator : Operator) (values : List (Option String))
      (negated caseInsensitive : Bool)
  /-- A filter on the elements of a collection. -/
  | collection (property : String) (inner : Filter) (quantifier : Quantifier) (negated : Bool)
  | and (left right : Filter) (negated : Bool)
  | or (left right : Filter) (negated : Bool)
deriving DecidableEq

namespace Filter

/-- The filter with its own negation changed, if asked to. -/
def toggled (change : Bool) : Filter → Filter
  | clause property operator values negated caseInsensitive =>
    clause property operator values (negated ^^ change) caseInsensitive
  | collection property inner quantifier negated =>
    collection property inner quantifier (negated ^^ change)
  | and left right negated => and left right (negated ^^ change)
  | or left right negated => or left right (negated ^^ change)

/-- The levels of the tree. A clause has one. -/
def height : Filter → Nat
  | clause .. => 1
  | collection _ inner _ _ => inner.height + 1
  | and left right _ | or left right _ => max left.height right.height + 1

theorem height_toggled (change : Bool) (filter : Filter) :
    (filter.toggled change).height = filter.height := by
  cases filter <;> rfl

@[simp] theorem toggled_false (filter : Filter) : filter.toggled false = filter := by
  cases filter <;> simp [toggled]

@[simp] theorem toggled_toggled (first second : Bool) (filter : Filter) :
    (filter.toggled first).toggled second = filter.toggled (first ^^ second) := by
  cases filter <;> simp [toggled]

/-- The tree by its constructors. -/
def term : Filter → Text.Term
  | clause property operator values negated caseInsensitive =>
    .record "Filter"
      [ ("property", .word (Text.escaped property)),
        ("operator", .word operator.name),
        ("values", .list (values.map fun value =>
          .ofOption (value.map fun text => .word (Text.escaped text)))),
        ("negated", .ofBool negated),
        ("case_insensitive", .ofBool caseInsensitive) ]
  | collection property inner quantifier negated =>
    .record "Collection"
      [ ("property", .word (Text.escaped property)),
        ("inner", inner.term),
        ("quantifier", .word quantifier.name),
        ("negated", .ofBool negated) ]
  | and left right negated =>
    .record "AndAlso"
      [("left", left.term), ("right", right.term), ("negated", .ofBool negated)]
  | or left right negated =>
    .record "OrElse"
      [("left", left.term), ("right", right.term), ("negated", .ofBool negated)]

end Filter

end ListQuery
