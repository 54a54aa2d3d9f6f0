import ListQuery.Predicate

/-! SQL statements as trees: conditions on the rows of tables, and the selections that use
them. -/

namespace ListQuery.Sql

/-- A condition or a value. A table stands under an alias that is numbered by the depth of its
selection: the root has the depth zero. -/
inductive Expr where
  /-- A column of the table at a depth. -/
  | column (depth : Nat) (name : String)
  | constant (scalar : Scalar)
  /-- A text in lower case. -/
  | lower (value : Expr)
  /-- The value, or false where it is unknown. -/
  | orFalse (value : Expr)
  | compare (comparison : Comparison) (left right : Expr)
  | isNull (value : Expr)
  | isNotNull (value : Expr)
  | inList (value : Expr) (constants : List Scalar)
  /-- A pattern with a backslash before characters that stand for themselves. -/
  | like (value : Expr) (pattern : String)
  | and (left right : Expr)
  | or (left right : Expr)
  | not (value : Expr)
  /-- Some row of a table, which stands at a depth, meets a condition. -/
  | exists (table : String) (depth : Nat) (condition : Expr)
deriving DecidableEq

/-- What a selection answers. -/
inductive Projection where
  | rows
  | count
deriving DecidableEq

/-- A column to order by. -/
structure OrderColumn where
  name : String
  ascending : Bool
deriving DecidableEq

/-- A selection from one table, which stands under the root alias. -/
structure Select where
  projection : Projection
  table : String
  condition : Option Expr := none
  order : List OrderColumn := []
  limit : Option Nat := none
  offset : Option Nat := none
deriving DecidableEq

end ListQuery.Sql
