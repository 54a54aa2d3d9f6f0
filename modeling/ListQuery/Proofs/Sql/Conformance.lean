import ListQuery.Proofs.Sql.Evaluation

/-! Tables that hold the same as records. Each stored row stands for a record or an element; its
columns hold what a condition reads of it, and the table of a collection has one row for each
element, under the identity of the parent. What conformance asks for is read off the condition:
columns and tables that it does not mention are free. -/

namespace ListQuery.Sql

/-- A row, and the record or element that it stands for. -/
structure Stored where
  row : Row
  value : Value

/-- The kinds of constants. Integers and floating-point numbers are one kind. -/
inductive Kind where
  | null
  | truth
  | number
  | text
  | instant
deriving DecidableEq

/-- The kind of a constant. -/
def kind : Scalar → Kind
  | .null => .null
  | .bool _ => .truth
  | .int _ | .float _ => .number
  | .text _ => .text
  | .instant _ => .instant

/-- Whether a constant is a floating-point value that is no number. -/
def isNaN : Scalar → Bool
  | .float x => x.isNaN
  | _ => false

/-- A cell and a constant are of one kind, and numbers if they are numeric; null goes with
everything. -/
def Comparable (cell constant : Scalar) : Prop :=
  cell = .null ∨ constant = .null ∨
    (kind cell = kind constant ∧ isNaN cell = false ∧ isNaN constant = false)

/-- The column that a path stands for at a place. -/
def columnName? (place : Place) (path : FieldPath) : Option String :=
  if path.isEmpty then place.element else some (path.joined "_")

/-- What an operand reads of a stored row: a constant that the record has at the path and the
row in the path's column. Only texts and nulls are read in lower case. -/
structure Reads (place : Place) (operand : Operand) (stored : Stored) (scalar : Scalar) : Prop where
  value : stored.value.lookup? operand.path = some scalar.value
  cell : ∀ name, columnName? place operand.path = some name → stored.row name = scalar
  folds : operand.foldCase = true → kind scalar = .null ∨ kind scalar = .text

/-- The elements of a collection. A null collection has none. -/
def elements? : Value → Option (List Value)
  | .list items => some items
  | .null => some []
  | _ => none

/-- The column of a row's identity. -/
def identity : String := "id"

/-- A collection's table has exactly one row for each element of each parent, with the parent's
identity under the foreign key. Identities are not null, and equal ones are of one parent. -/
structure Holds (table : List Row) (foreignKey : String) (path : FieldPath)
    (parents : List Stored) (children : Stored → List Stored) : Prop where
  identified : ∀ parent ∈ parents, parent.row identity ≠ .null
  unique : ∀ a ∈ parents, ∀ b ∈ parents,
    compareCells .eq (a.row identity) (b.row identity) = some true → a = b
  elements : ∀ parent ∈ parents,
    (parent.value.lookup? path).bind elements? = some ((children parent).map Stored.value)
  owned : ∀ parent ∈ parents, ∀ child ∈ children parent,
    child.row foreignKey = parent.row identity
  complete : table.Perm ((parents.flatMap children).map Stored.row)

/-- The stored rows hold whatever a condition reads of the values they stand for. -/
def Conforms (catalog : Catalog) (database : Database) :
    Place → Predicate → List Stored → Prop
  | place, .compare operand _ constant, all =>
    ∀ stored ∈ all, ∃ scalar, Reads place operand stored scalar ∧ Comparable scalar constant
  | place, .oneOf operand constants, all =>
    ∀ stored ∈ all, ∃ scalar, Reads place operand stored scalar ∧
      ∀ constant ∈ constants, Comparable scalar constant
  | place, .text operand _ _, all =>
    ∀ stored ∈ all, ∃ scalar, Reads place operand stored scalar ∧
      (kind scalar = .null ∨ kind scalar = .text)
  | place, .any path inner, parents | place, .all path inner, parents =>
    ∀ table, catalog.collections.get? (collectionKey place path) = some table →
      ∃ children, Holds (database table.table) table.foreignKey path parents children ∧
        Conforms catalog database (elementPlace place (collectionKey place path) table) inner
          (parents.flatMap children)
  | place, .and left right, all | place, .or left right, all =>
    Conforms catalog database place left all ∧ Conforms catalog database place right all
  | place, .not inner, all => Conforms catalog database place inner all
  | _, .native _, _ => True

end ListQuery.Sql
