import ListQuery.Sql.Catalog
import ListQuery.Sql.Expr

/-! Predicates as conditions on rows. A path is the column named by its parts; a quantifier is a
subselection from the table of its collection, tied to its parent by a foreign key. A negation
takes what is unknown as false first, so that it means for rows what it means for records. -/

namespace ListQuery.Sql

/-- Why a plan has no SQL. -/
inductive SqlError where
  | nativePredicate (name : String)
  | computedSortKey (name : String)
  | unmappedCollection (key : String)
  | elementOutsideCollection
deriving DecidableEq

/-- The wording of an error. -/
def SqlError.message : SqlError → String
  | nativePredicate name => "custom predicate '" ++ name ++ "' has no SQL form"
  | computedSortKey name => "computed sort key '" ++ name ++ "' has no SQL form"
  | unmappedCollection key => "no table registered for collection '" ++ key ++ "'"
  | elementOutsideCollection => "collection element referenced outside a scalar collection"

/-- A disjunction that became a list of so many values. -/
structure OrToIn where
  column : String
  count : Nat
deriving DecidableEq

/-- The list by its constructor. -/
def OrToIn.term (step : OrToIn) : Text.Term :=
  .record "OrToIn"
    [("column", .word (Text.escaped step.column)), ("value_count", .word (toString step.count))]

/-- Where a condition stands: the depth of its selection, the key of its collection, and the
column of elements that are no records. -/
structure Place where
  depth : Nat := 0
  key : String := ""
  element : Option String := none

/-- A text as a pattern that stands for itself. -/
def escapeLike (text : List Char) : List Char :=
  text.flatMap fun c => if c = '%' || c = '_' || c = '\\' then ['\\', c] else [c]

/-- The pattern for a text at a place. -/
def likePattern (position : TextMatch) (text : String) : String :=
  let literal := escapeLike text.toList
  String.ofList <|
    match position with
    | .contains => '%' :: (literal ++ ['%'])
    | .startsWith => literal ++ ['%']
    | .endsWith => '%' :: literal

/-- The column of an operand, in lower case if asked for. -/
def operandColumn (place : Place) (operand : Operand) : Except SqlError Expr :=
  let folded (column : Expr) : Expr := if operand.foldCase then .lower column else column
  if operand.path.isEmpty then
    match place.element with
    | some name => .ok (folded (.column place.depth name))
    | none => .error .elementOutsideCollection
  else .ok (folded (.column place.depth (operand.path.joined "_")))

/-- A comparison. What is null differs from every other constant. -/
def comparison (column : Expr) (comparison : Comparison) (scalar : Scalar) : Expr :=
  if scalar.isNull then
    match comparison with
    | .eq => .isNull column
    | .ne => .isNotNull column
    | _ => .constant (.bool false)
  else
    match comparison with
    | .ne => .or (.compare .ne column (.constant scalar)) (.isNull column)
    | other => .compare other column (.constant scalar)

/-- A list of constants. Nulls are tested apart. -/
def membership (column : Expr) (scalars : List Scalar) : Expr :=
  let constants := scalars.filter fun scalar => !scalar.isNull
  match constants.isEmpty, scalars.any Scalar.isNull with
  | true, false => .constant (.bool false)
  | true, true => .isNull column
  | false, false => .inList column constants
  | false, true => .or (.inList column constants) (.isNull column)

/-- The operands and constants of a disjunction of equalities, from the left; nothing for any
other condition. -/
def equalities? : Predicate → Option (List (Operand × Scalar))
  | .compare operand .eq scalar => if scalar.isNull then none else some [(operand, scalar)]
  | .or left right =>
    match equalities? left with
    | none => none
    | some first => (equalities? right).map (first ++ ·)
  | _ => none

/-- A disjunction of enough equalities on one operand as a list. -/
def asList? (threshold : Nat) (predicate : Predicate) : Option (Operand × List Scalar) :=
  match equalities? predicate with
  | some ((operand, scalar) :: rest) =>
    if threshold ≤ rest.length + 1 && rest.all (·.1 == operand) then
      some (operand, scalar :: rest.map (·.2))
    else none
  | _ => none

/-- A negation. Quantifiers are never unknown. -/
def negated (predicate : Predicate) (condition : Expr) : Expr :=
  match predicate with
  | .any .. | .all .. => .not condition
  | _ => .not (.orFalse condition)

/-- The key of a collection seen from a place. -/
def collectionKey (place : Place) (path : FieldPath) : String :=
  if place.key.isEmpty then path.dotted else place.key ++ "." ++ path.dotted

/-- The place of the conditions on a collection's elements. -/
def elementPlace (place : Place) (key : String) (table : CollectionTable) : Place :=
  ⟨place.depth + 1, key, some table.valueColumn⟩

/-- Some element of a collection meets a condition. -/
def someElement (place : Place) (table : CollectionTable) (condition : Expr) : Expr :=
  .exists table.table (place.depth + 1)
    (.and
      (.compare .eq (.column (place.depth + 1) table.foreignKey) (.column place.depth "id"))
      condition)

/-- A condition, and the disjunctions in it that became lists, from the left. -/
def condition (catalog : Catalog) (place : Place) :
    Predicate → Except SqlError (Expr × List OrToIn)
  | .compare operand op scalar => do
    let column ← operandColumn place operand
    return (comparison column op scalar, [])
  | .oneOf operand scalars => do
    let column ← operandColumn place operand
    return (membership column scalars, [])
  | .text operand position text => do
    let column ← operandColumn place operand
    return (.like column (likePattern position text), [])
  | .any path inner =>
    match catalog.collections.get? (collectionKey place path) with
    | none => .error (.unmappedCollection (collectionKey place path))
    | some table => do
      let key := collectionKey place path
      let (inside, steps) ← condition catalog (elementPlace place key table) inner
      return (someElement place table inside, steps)
  | .all path inner =>
    match catalog.collections.get? (collectionKey place path) with
    | none => .error (.unmappedCollection (collectionKey place path))
    | some table => do
      let key := collectionKey place path
      let (inside, steps) ← condition catalog (elementPlace place key table) inner
      return (.not (someElement place table (negated inner inside)), steps)
  | .and left right => do
    let (left, first) ← condition catalog place left
    let (right, second) ← condition catalog place right
    return (.and left right, first ++ second)
  | .or left right =>
    match asList? catalog.threshold (.or left right) with
    | some (operand, scalars) => do
      let column ← operandColumn place operand
      return (membership column scalars, [⟨operand.path.joined "_", scalars.length⟩])
    | none => do
      let (left, first) ← condition catalog place left
      let (right, second) ← condition catalog place right
      return (.or left right, first ++ second)
  | .not inner => do
    let (inside, steps) ← condition catalog place inner
    return (negated inner inside, steps)
  | .native test => .error (.nativePredicate test.name)

end ListQuery.Sql
