import ListQuery.Predicate
import ListQuery.Proofs.Value.Sorting

/-! A value and a constant of one kind stand in an order, which is also the order of sorting. Nothing
else does: null has no kind, nor has what is no number. Beside a constant that is not null, the
comparisons of filters are what this order makes of them. -/

namespace ListQuery

namespace Value

/-- Whether a value is a floating-point value that is no number. -/
def isNaN : Value → Bool
  | float x => x.isNaN
  | _ => false

/-- Whether a value is a number, an integer or a floating-point one. -/
def isNumber : Value → Bool
  | int _ => true
  | float x => !x.isNaN
  | _ => false

/-- A value and a constant are of one kind. The numbers are one. -/
inductive SameKind : Value → Scalar → Prop where
  | bool (a b : Bool) : SameKind (.bool a) (.bool b)
  | number {value : Value} {constant : Scalar} (left : value.isNumber = true)
      (right : constant.value.isNumber = true) : SameKind value constant
  | text (a b : String) : SameKind (.text a) (.text b)
  | instant (a b : Instant) : SameKind (.instant a) (.instant b)

variable {value : Value} {constant : Scalar}

/-- A value and a constant are ordered exactly if they are of one kind. -/
theorem exists_compareTo?_iff :
    (∃ order, value.compareTo? constant = some order) ↔ SameKind value constant := by
  constructor
  · rintro ⟨order, compared⟩
    cases value <;> cases constant <;> simp only [compareTo?, reduceCtorEq] at compared
    case bool.bool a b => exact .bool a b
    case text.text a b => exact .text a b
    case instant.instant a b => exact .instant a b
    case int.int => exact .number rfl rfl
    all_goals
      have numbers := Option.ite_none_left_eq_some.mp compared
      simp only [Bool.or_eq_true, not_or, Bool.not_eq_true] at numbers
      exact .number (by simp [isNumber, numbers]) (by simp [Scalar.value, isNumber, numbers])
  · intro alike
    cases alike with
    | bool | text | instant => exact ⟨_, rfl⟩
    | number left right =>
      cases value <;> simp only [isNumber, reduceCtorEq, Bool.not_eq_true'] at left <;>
        cases constant <;>
        simp only [Scalar.value, isNumber, reduceCtorEq, Bool.not_eq_true'] at right
      all_goals simp [compareTo?, Binary64.compare?, Binary64.isNaN_ofInt, left, right]

/-- Sorting keeps to the order that filters go by. -/
theorem sortCompare_of_compareTo? {order : Ordering}
    (compared : value.compareTo? constant = some order) :
    value.sortCompare constant.value = order := by
  cases value <;> cases constant <;>
    simp_all [compareTo?, sortCompare, Scalar.value]

end Value

namespace Comparison

variable {constant : Scalar} (present : constant ≠ .null) (value : Value)

include present

theorem eq_holds : eq.holds value constant = (value.compareTo? constant == some .eq) := by
  cases value <;> cases constant <;> first | rfl | contradiction

theorem ge_holds :
    ge.holds value constant = (gt.holds value constant || eq.holds value constant) := by
  rw [eq_holds present]
  rfl

theorem le_holds :
    le.holds value constant = (lt.holds value constant || eq.holds value constant) := by
  rw [eq_holds present]
  rfl

/-- Of before, beside and behind, one holds if there is an order, and none if there is not. -/
theorem countP_holds :
    [lt, eq, gt].countP (·.holds value constant) =
      if (value.compareTo? constant).isSome then 1 else 0 := by
  have before : lt.holds value constant = (value.compareTo? constant == some .lt) := rfl
  have beside := eq_holds present value
  have behind : gt.holds value constant = (value.compareTo? constant == some .gt) := rfl
  cases compared : value.compareTo? constant with
  | none => simp [before, beside, behind, compared]
  | some order => cases order <;> simp [before, beside, behind, compared]

end Comparison

end ListQuery
