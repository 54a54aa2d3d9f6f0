import ListQuery.Proofs.Compile.Outcome
import ListQuery.Proofs.Filter.Recasing
import ListQuery.Proofs.Schema.Resolution

/-! Filters compiled in any case of letters. A name is looked up among aliases by its lower case
and among fields without regard to ASCII letters, and neither sees the case of such letters. What
a filter compiles to is made of declared names alone, so small letters in the names of its
properties come to the same predicate, or to the same error and the same events about the property
in small letters. -/

namespace ListQuery

open Text (sameIgnoringCase sameIgnoringCase_lowered)

/-! ### Fields -/

section Fields
variable {M : Type} [Schema M]

namespace Resolve

theorem isEmpty_congr {α β : Type} {related : α → β → Prop} {left : List α} {right : List β}
    (same : List.Forall₂ related left right) : left.isEmpty = right.isEmpty := by
  cases same <;> rfl

theorem walkFields_congr {left right : List String}
    (same : List.Forall₂ (fun left right => sameIgnoringCase left right = true) left right)
    (model : M) : walkFields model left = walkFields model right := by
  induction same generalizing model with
  | nil => rfl
  | cons first later ih =>
    simp only [walkFields, Schema.field?_congr first, isEmpty_congr later, ih]

variable [DecidableEq M] (config : Config M)

theorem walkSegment_congr {left right : String} (same : sameIgnoringCase left right = true)
    (model : M) : walkSegment config model left = walkSegment config model right := by
  simp only [walkSegment, Mapping.alias?, Text.lowercase_congr same,
    walkFields_congr (.cons same .nil)]

theorem walkSegments_congr {left right : List String}
    (same : List.Forall₂ (fun left right => sameIgnoringCase left right = true) left right)
    (model : M) : walkSegments config model left = walkSegments config model right := by
  induction same generalizing model with
  | nil => rfl
  | cons first later ih =>
    simp only [walkSegments, walkSegment_congr config first, isEmpty_congr later, ih]

end Resolve

theorem Text.isEmpty_congr {left right : String} (same : sameIgnoringCase left right = true) :
    left.isEmpty = right.isEmpty := by
  have empty := Resolve.isEmpty_congr (Text.sameIgnoringCase_iff.mp same)
  rw [Bool.eq_iff_iff, List.isEmpty_iff, List.isEmpty_iff] at empty
  rw [Bool.eq_iff_iff, String.isEmpty_iff, String.isEmpty_iff, ← String.toList_eq_nil_iff, empty,
    String.toList_eq_nil_iff]

/-- A property stands for the same field in any case of its letters. -/
theorem resolve_congr [DecidableEq M] (config : Config M) (model : M) {left right : String}
    (same : sameIgnoringCase left right = true) :
    resolve config model left = resolve config model right := by
  rw [resolve, resolve, Text.isEmpty_congr same,
    Resolve.walkSegments_congr config (Text.splitAt_congr rfl same)]

end Fields

/-! ### Runs -/

/-- The event with the property that it tells of in small letters. -/
def Event.lowered : Event → Event
  | droppedFilter property reason => droppedFilter (Text.lowered property) reason
  | skippedOrdering property reason => skippedOrdering (Text.lowered property) reason
  | customFilter property operator count => customFilter (Text.lowered property) operator count
  | event => event

theorem map_mapError {ε ε' α β : Type} (f : α → β) (g : ε → ε') (result : Except ε α) :
    (result.mapError g).map f = (result.map f).mapError g := by
  cases result <;> rfl

namespace Traced

variable {α β : Type}

/-- The run with the properties in its events and its error in small letters. -/
def lowered (run : Traced QueryError α) : Traced QueryError α :=
  ⟨run.events.map Event.lowered, run.result.mapError QueryError.lowered⟩

theorem lowered_bind (first : Traced QueryError α) (next : α → Traced QueryError β) :
    (first >>= next).lowered = first.lowered >>= fun a => (next a).lowered := by
  obtain ⟨events, error | a⟩ := first
  · rfl
  · change Traced.lowered (Traced.bind _ _) = Traced.bind ⟨_, .ok a⟩ _
    rw [bind_ok, bind_ok, lowered, List.map_append]
    rfl

end Traced

namespace Compile

open ListQuery.Filter (Operator Quantifier)
open Traced

variable {M : Type} [Schema M] [DecidableEq M] (config : Config M) (scope : Scope M)
  (property : String)

omit [Schema M] [DecidableEq M] in
theorem dropped_lowered {α : Type} (reason : PassedOver) :
    (dropped config (Text.lowered property) reason : Traced QueryError (Option α)) =
      (dropped config property reason).lowered := by
  unfold dropped
  split <;> rfl

theorem target_lowered :
    target config scope (Text.lowered property) = (target config scope property).lowered := by
  have same := sameIgnoringCase_lowered property
  cases scope with
  | element type =>
    rw [target, target, Text.isEmpty_congr same]
    split
    · rfl
    · exact dropped_lowered config property .unknown
  | model model =>
    rw [target, target, resolve_congr config model same]
    split
    · exact dropped_lowered config property .unknown
    · split
      · exact dropped_lowered config property .ignoredForFiltering
      · rfl

omit [DecidableEq M] in
theorem constant_lowered (type : FieldType M) (convert : Option Converter) (foldCase : Bool)
    (raw : Option String) :
    constant (Text.lowered property) type convert foldCase raw =
      (constant property type convert foldCase raw).mapError QueryError.lowered := by
  simp only [constant]
  split <;> rfl

omit [DecidableEq M] in
theorem constants_lowered (type : FieldType M) (convert : Option Converter) (foldCase : Bool)
    (raw : List (Option String)) :
    constants (Text.lowered property) type convert foldCase raw =
      (constants property type convert foldCase raw).mapError QueryError.lowered := by
  induction raw with
  | nil => rfl
  | cons literal rest ih =>
    rw [constants, constants, constant_lowered, ih]
    cases constant property type convert foldCase literal with
    | error error => rfl
    | ok scalar => cases constants property type convert foldCase rest <;> rfl

omit [DecidableEq M] in
theorem scalarClause_lowered (path : FieldPath) (type : FieldType M)
    (convert : Option Converter) (caseInsensitive : Bool) (operator : Operator)
    (raw : List (Option String)) :
    scalarClause (Text.lowered property) path type convert caseInsensitive operator raw =
      (scalarClause property path type convert caseInsensitive operator raw).mapError
        QueryError.lowered := by
  simp only [scalarClause, constant_lowered, constants_lowered]
  split
  · rfl
  · split
    · exact map_mapError _ _ _
    · exact map_mapError _ _ _
    · rename_i position literal _
      rcases constant property type convert (caseInsensitive && type.isText) literal with
        error | scalar
      · rfl
      · cases scalar <;> rfl
    · rfl

omit [DecidableEq M] in
theorem fieldClause_lowered (target : Target M) (caseInsensitive : Bool) (operator : Operator)
    (raw : List (Option String)) :
    fieldClause (Text.lowered property) target caseInsensitive operator raw =
      (fieldClause property target caseInsensitive operator raw).mapError QueryError.lowered := by
  simp only [fieldClause, scalarClause_lowered]
  split
  · rfl
  · rfl
  · exact map_mapError _ _ _
  · rfl

theorem clause_lowered (operator : Operator) (raw : List (Option String))
    (negated caseInsensitive : Bool) :
    clause config scope (Text.lowered property) operator raw negated caseInsensitive =
      (clause config scope property operator raw negated caseInsensitive).lowered := by
  rw [clause, clause, lowered_bind, target_lowered]
  refine congrArg (_ >>= ·) (funext fun found => ?_)
  rcases found with _ | target
  · rfl
  · simp only
    split
    · rename_i hook asked
      rw [lowered_bind]
      split <;> rfl
    · rw [lowered_bind, fieldClause_lowered]
      rfl

/-- A filter in small letters compiles to the same, but for the properties that are named. -/
theorem filter_lowered (f : Filter) :
    filter config scope f.lowered = (filter config scope f).lowered := by
  induction f generalizing scope with
  | clause property operator values negated caseInsensitive =>
    exact clause_lowered config scope property operator values negated caseInsensitive
  | collection property inner quantifier negated ih =>
    rw [Filter.lowered, filter, filter, lowered_bind, target_lowered]
    refine congrArg (_ >>= ·) (funext fun found => ?_)
    rcases found with _ | target
    · rfl
    · simp only
      split
      · rfl
      · rw [lowered_bind, ih]
        rfl
  | and left right negated first second =>
    rw [Filter.lowered, filter, filter, first, second]
    simp only [lowered_bind]
    rfl
  | or left right negated first second =>
    rw [Filter.lowered, filter, filter, first, second]
    simp only [lowered_bind]
    rfl

end Compile

variable {M : Type} [Schema M] [DecidableEq M]

theorem compileFilter_lowerOutside (config : Config M) (model : M) (text : String) :
    compileFilter config model (String.ofList (Filter.lowerOutside false text.toList)) =
      (compileFilter config model text).lowered := by
  rw [compileFilter, compileFilter, Filter.parse_lowerOutside, Traced.lowered_bind]
  rcases Filter.parse text with error | _ | f
  · rfl
  · rfl
  · exact Compile.filter_lowered config (.model model) f

end ListQuery
