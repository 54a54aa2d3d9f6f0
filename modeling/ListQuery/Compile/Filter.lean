import ListQuery.Error
import ListQuery.Filter.Grammar
import ListQuery.Resolve
import ListQuery.Traced

/-! Filters compiled to predicates. A clause whose property is unknown or ignored is an error in
a strict configuration; a lenient one drops it, and a join with one side dropped is its other
side. -/

namespace ListQuery

open ListQuery.Filter (Operator Quantifier)

/-- What a filter speaks of: a record of a model, or an element of a list of scalars. -/
inductive Scope (M : Type) where
  | model (model : M)
  | element (type : FieldType M)

namespace Compile

variable {M : Type} [Schema M] [DecidableEq M]

/-- The field that a clause is about. -/
structure Target (M : Type) where
  path : FieldPath
  type : FieldType M
  convert : Option Converter := none
  customFilter : Option CustomFilter := none

/-- A clause that is passed over, or the error that it is in a strict configuration. -/
def dropped {α : Type} (config : Config M) (property : String) (reason : PassedOver) :
    Traced QueryError (Option α) :=
  if config.strict then .fail (.unresolvedFilter property)
  else do
    .tell (.droppedFilter property reason)
    return none

/-- The field that a property stands for in a scope. An element has no name, and no fields. -/
def target (config : Config M) (scope : Scope M) (property : String) :
    Traced QueryError (Option (Target M)) :=
  match scope with
  | .element type =>
    if property.isEmpty then return some { path := [], type }
    else dropped config property .unknown
  | .model model =>
    match resolve config model property with
    | none => dropped config property .unknown
    | some resolved =>
      if resolved.filterIgnored then dropped config property .ignoredForFiltering
      else
        return some
          { path := resolved.path
            type := resolved.type
            convert := resolved.convert
            customFilter := resolved.customFilter }

/-- The constant of a literal: by the alias's converter if there is one, else by the type. -/
def constant (property : String) (type : FieldType M) (convert : Option Converter)
    (foldCase : Bool) (raw : Option String) : Except QueryError Scalar :=
  let converted :=
    match raw, convert with
    | some raw, some convert => convert raw
    | raw, _ => Literal.scalar raw type
  match converted with
  | .ok scalar => .ok (if foldCase then scalar.foldCase else scalar)
  | .error fault => .error (.conversion property (raw.getD "null") type.name fault)

/-- The constants of literals, up to the first that has none. -/
def constants (property : String) (type : FieldType M) (convert : Option Converter)
    (foldCase : Bool) : List (Option String) → Except QueryError (List Scalar)
  | [] => .ok []
  | raw :: rest =>
    match constant property type convert foldCase raw with
    | .error error => .error error
    | .ok scalar =>
      match constants property type convert foldCase rest with
      | .ok scalars => .ok (scalar :: scalars)
      | .error error => .error error

/-- What an operator does with its constants. -/
inductive Role where
  /-- The field has to be one of them. -/
  | membership
  /-- The field is compared with one. -/
  | comparison (comparison : Comparison)
  /-- The field has to hold one as a pattern. -/
  | pattern (position : TextMatch)

/-- The role of each operator. -/
def role : Operator → Role
  | .equal => .comparison .eq
  | .notEqual => .comparison .ne
  | .greater => .comparison .gt
  | .greaterOrEqual => .comparison .ge
  | .less => .comparison .lt
  | .lessOrEqual => .comparison .le
  | .oneOf => .membership
  | .contains => .pattern .contains
  | .startsWith => .pattern .startsWith
  | .endsWith => .pattern .endsWith

/-- The condition on a field of a scalar type. Text operators need a text field, and every
operator but the list one a single literal. -/
def scalarClause (property : String) (path : FieldPath) (type : FieldType M)
    (convert : Option Converter) (caseInsensitive : Bool) (operator : Operator)
    (raw : List (Option String)) : Except QueryError Predicate :=
  let foldCase := caseInsensitive && type.isText
  let operand : Operand := ⟨path, foldCase⟩
  if operator.isText && !type.isText then
    .error (.unsupportedOperator property operator (.notText type.name))
  else
    match role operator, raw with
    | .membership, raw =>
      (constants property type convert foldCase raw).map (.oneOf operand)
    | .comparison comparison, [literal] =>
      (constant property type convert foldCase literal).map (.compare operand comparison)
    | .pattern position, [literal] =>
      match constant property type convert foldCase literal with
      | .ok (.text pattern) => .ok (.text operand position pattern)
      | .ok other => .error (.conversion property other.literal "string" .notPattern)
      | .error error => .error error
    | _, raw => .error (.valueCount property operator raw.length)

/-- The condition on a field: of a list of scalars some element has to meet it, and records and
lists of records have none. -/
def fieldClause (property : String) (target : Target M) (caseInsensitive : Bool)
    (operator : Operator) (raw : List (Option String)) : Except QueryError Predicate :=
  match target.type with
  | .list (.record _) | .record _ =>
    .error (.unsupportedOperator property operator (.notComparable target.type.name))
  | .list element =>
    (scalarClause property [] element target.convert caseInsensitive operator raw).map
      (.any target.path)
  | type =>
    scalarClause property target.path type target.convert caseInsensitive operator raw

/-- A clause: by the field's hook if it has one, else by its type. -/
def clause (config : Config M) (scope : Scope M) (property : String) (operator : Operator)
    (raw : List (Option String)) (negated caseInsensitive : Bool) :
    Traced QueryError (Option Predicate) := do
  match ← target config scope property with
  | none => return none
  | some target =>
    match target.customFilter with
    | some hook =>
      .tell (.customFilter property operator raw.length)
      match hook target.path raw operator with
      | .ok predicate => return some (predicate.negatedIf negated)
      | .error rejection =>
        .fail (.conversion property rejection.value rejection.typeName rejection.fault)
    | none =>
      let predicate ← .ofExcept (fieldClause property target caseInsensitive operator raw)
      return some (predicate.negatedIf negated)

/-- Joins what is left of two sides. -/
def combine (join : Predicate → Predicate → Predicate) :
    Option Predicate → Option Predicate → Option Predicate
  | some left, some right => some (join left right)
  | some one, none | none, some one => some one
  | none, none => none

/-- The scope of a collection's elements. -/
def elementScope : FieldType M → Scope M
  | .record model => .model model
  | type => .element type

/-- The quantified condition. -/
def quantify : Quantifier → FieldPath → Predicate → Predicate
  | .any => .any
  | .all => .all

/-- A filter as a predicate, or nothing when all of it is dropped. -/
def filter (config : Config M) (scope : Scope M) : Filter → Traced QueryError (Option Predicate)
  | .and left right negated => do
    let left ← filter config scope left
    let right ← filter config scope right
    return (combine .and left right).map (·.negatedIf negated)
  | .or left right negated => do
    let left ← filter config scope left
    let right ← filter config scope right
    return (combine .or left right).map (·.negatedIf negated)
  | .collection property inner quantifier negated => do
    match ← target config scope property with
    | none => return none
    | some target =>
      match target.type.element? with
      | none => .fail (.notACollection property)
      | some element =>
        let inner ← filter config (elementScope element) inner
        return inner.map fun predicate =>
          (quantify quantifier target.path predicate).negatedIf negated
  | .clause property operator values negated caseInsensitive =>
    clause config scope property operator values negated caseInsensitive

end Compile

/-- A filter text as a predicate on the records of a model. -/
def compileFilter {M : Type} [Schema M] [DecidableEq M] (config : Config M) (model : M)
    (text : String) : Traced QueryError (Option Predicate) := do
  match ← .ofExcept (Filter.parse text) with
  | none => return none
  | some filter => Compile.filter config (.model model) filter

end ListQuery
