import ListQuery.Sql.Compile

/-! What SQL conditions say of rows. A database gives each table its rows, and a row gives each
column its cell. Conditions have three truth values: an unknown one is a null cell, comparisons
with null are unknown, and a selection takes the rows of which its condition is true. A constant
counts as the value that it stands for. LOWER is assumed to give the small letters that the program
itself gives. -/

namespace ListQuery.Sql

/-- The cells of a row under the names of their columns. -/
abbrev Row := String → Scalar

/-- The rows of each table. -/
abbrev Database := String → List Row

/-- A truth value. The unknown one is `none`. -/
abbrev Truth := Option Bool

namespace Truth

/-- The truth value as a cell. -/
def cell : Truth → Scalar
  | some b => .bool b
  | none => .null

/-- The truth value of a cell. -/
def ofCell : Scalar → Truth
  | .bool b => some b
  | _ => none

/-- False as soon as one side is. -/
def and : Truth → Truth → Truth
  | some false, _ => some false
  | some true, right => right
  | none, some false => some false
  | none, _ => none

/-- True as soon as one side is. -/
def or : Truth → Truth → Truth
  | some true, _ => some true
  | some false, right => right
  | none, some true => some true
  | none, _ => none

/-- The unknown stays unknown. -/
def not : Truth → Truth
  | some b => some !b
  | none => none

theorem cell_eq_true_iff {truth : Truth} : truth.cell = .bool true ↔ truth = some true := by
  cases truth <;> simp [cell]

theorem ofCell_eq_some_iff {cell : Scalar} {b : Bool} :
    ofCell cell = some b ↔ cell = .bool b := by
  cases cell <;> simp [ofCell]

theorem and_eq_true_iff {left right : Truth} :
    left.and right = some true ↔ left = some true ∧ right = some true := by
  rcases left with _ | _ | _ <;> rcases right with _ | _ | _ <;> simp [and]

theorem or_eq_true_iff {left right : Truth} :
    left.or right = some true ↔ left = some true ∨ right = some true := by
  rcases left with _ | _ | _ <;> rcases right with _ | _ | _ <;> simp [or]

end Truth

/-- The order of floating-point cells. What is no number equals itself and comes last. -/
def floatOrder (a b : Binary64) : Ordering :=
  (a.compare? b).getD (compare a.isNaN b.isNaN)

/-- The order of two cells of one type. An integer beside a floating-point number counts as the
nearest one. Null has no order, and neither have cells of two types. -/
def order? : Scalar → Scalar → Option Ordering
  | .bool a, .bool b => some (compare a b)
  | .int a, .int b => some (compare a.toInt b.toInt)
  | .int a, .float b => some (floatOrder (.ofInt a.toInt) b)
  | .float a, .int b => some (floatOrder a (.ofInt b.toInt))
  | .float a, .float b => some (floatOrder a b)
  | .text a, .text b => some (compare a b)
  | .instant a, .instant b => some (a.order b)
  | _, _ => none

/-- The orders of which a comparison is true. -/
def accepts : Comparison → Ordering → Bool
  | .eq, order => order == .eq
  | .ne, order => order != .eq
  | .gt, order => order == .gt
  | .ge, order => order != .lt
  | .lt, order => order == .lt
  | .le, order => order != .gt

/-- A comparison of two cells. -/
def compareCells (comparison : Comparison) (left right : Scalar) : Truth :=
  (order? left right).map (accepts comparison)

/-- Whether a cell is in a list: a disjunction of equalities. -/
def isIn (cell : Scalar) : List Scalar → Truth
  | [] => some false
  | constant :: rest => (compareCells .eq cell constant).or (isIn cell rest)

/-- Whether a test accepts what some run of characters leaves of a text. -/
def afterRun (test : List Char → Bool) : List Char → Bool
  | [] => test []
  | c :: rest => test (c :: rest) || afterRun test rest

/-- Whether a text matches a pattern: a percent sign stands for a run of characters, an
underscore for one, and a backslash makes the next character stand for itself. -/
def isLike : List Char → List Char → Bool
  | [], text => text.isEmpty
  | '%' :: pattern, text => afterRun (isLike pattern) text
  | '_' :: pattern, text =>
    match text with
    | [] => false
    | _ :: rest => isLike pattern rest
  | ['\\'], _ => false
  | '\\' :: c :: pattern, text =>
    match text with
    | [] => false
    | d :: rest => d == c && isLike pattern rest
  | c :: pattern, text =>
    match text with
    | [] => false
    | d :: rest => d == c && isLike pattern rest

/-- The rows that the aliases of selections stand for, by depth, with one more. -/
def under (rows : Nat → Row) (depth : Nat) (row : Row) : Nat → Row :=
  fun other => if other = depth then row else rows other

namespace Expr

/-- What an expression comes to, its aliases standing for rows. The database is assumed to fold case
as the program does: LOWER of a text is its `Text.lowercase`. -/
def cell (database : Database) : Expr → (Nat → Row) → Scalar
  | .column depth name, rows => rows depth name
  | .constant scalar, _ => scalar
  | .lower value, rows =>
    match value.cell database rows with
    | .text s => .text (Text.lowercase s)
    | _ => .null
  | .orFalse value, rows => .bool ((Truth.ofCell (value.cell database rows)).getD false)
  | .compare comparison left right, rows =>
    (compareCells comparison (left.cell database rows) (right.cell database rows)).cell
  | .isNull value, rows => .bool (value.cell database rows).isNull
  | .isNotNull value, rows => .bool !(value.cell database rows).isNull
  | .inList value constants, rows => (isIn (value.cell database rows) constants).cell
  | .like value pattern, rows =>
    match value.cell database rows with
    | .text s => .bool (isLike pattern.toList s.toList)
    | _ => .null
  | .and left right, rows =>
    ((Truth.ofCell (left.cell database rows)).and (Truth.ofCell (right.cell database rows))).cell
  | .or left right, rows =>
    ((Truth.ofCell (left.cell database rows)).or (Truth.ofCell (right.cell database rows))).cell
  | .not value, rows => (Truth.ofCell (value.cell database rows)).not.cell
  | .exists table depth condition, rows =>
    .bool ((database table).any fun row =>
      decide (condition.cell database (under rows depth row) = .bool true))

/-- Whether a condition is true. -/
def isTrue (database : Database) (condition : Expr) (rows : Nat → Row) : Bool :=
  decide (condition.cell database rows = .bool true)

section True
variable {database : Database} {rows : Nat → Row} {left right value : Expr}

theorem isTrue_iff {condition : Expr} :
    condition.isTrue database rows = true ↔ condition.cell database rows = .bool true := by
  simp [isTrue]

theorem compare_true_iff {comparison : Comparison} :
    (Expr.compare comparison left right).cell database rows = .bool true ↔
      compareCells comparison (left.cell database rows) (right.cell database rows) = some true :=
  Truth.cell_eq_true_iff

theorem isNull_true_iff :
    (Expr.isNull value).cell database rows = .bool true ↔ value.cell database rows = .null := by
  change Scalar.bool (value.cell database rows).isNull = .bool true ↔ _
  cases value.cell database rows <;> simp [Scalar.isNull]

theorem isNotNull_true_iff :
    (Expr.isNotNull value).cell database rows = .bool true ↔ value.cell database rows ≠ .null := by
  change Scalar.bool (!(value.cell database rows).isNull) = .bool true ↔ _
  cases value.cell database rows <;> simp [Scalar.isNull]

theorem inList_true_iff {constants : List Scalar} :
    (Expr.inList value constants).cell database rows = .bool true ↔
      isIn (value.cell database rows) constants = some true :=
  Truth.cell_eq_true_iff

theorem and_true_iff :
    (Expr.and left right).cell database rows = .bool true ↔
      left.cell database rows = .bool true ∧ right.cell database rows = .bool true := by
  refine Truth.cell_eq_true_iff.trans ?_
  rw [Truth.and_eq_true_iff, Truth.ofCell_eq_some_iff, Truth.ofCell_eq_some_iff]

theorem or_true_iff :
    (Expr.or left right).cell database rows = .bool true ↔
      left.cell database rows = .bool true ∨ right.cell database rows = .bool true := by
  refine Truth.cell_eq_true_iff.trans ?_
  rw [Truth.or_eq_true_iff, Truth.ofCell_eq_some_iff, Truth.ofCell_eq_some_iff]

/-- The opposite of a condition that is not unknown. -/
theorem not_true_iff {b : Bool} (known : value.cell database rows = .bool b) :
    (Expr.not value).cell database rows = .bool true ↔
      value.cell database rows ≠ .bool true := by
  change (Truth.ofCell (value.cell database rows)).not.cell = .bool true ↔ _
  rw [known]
  cases b <;> simp [Truth.ofCell, Truth.not, Truth.cell]

/-- With the unknown taken as false, the opposite is true wherever the condition is not. -/
theorem not_orFalse_true_iff :
    (Expr.not (.orFalse value)).cell database rows = .bool true ↔
      value.cell database rows ≠ .bool true := by
  have held : Truth.ofCell (value.cell database rows) = some true ↔
      value.cell database rows = .bool true := Truth.ofCell_eq_some_iff
  rw [ne_eq, ← held]
  change Truth.cell (some !(Truth.ofCell (value.cell database rows)).getD false) = .bool true ↔ _
  rcases Truth.ofCell (value.cell database rows) with _ | _ | _ <;> simp [Truth.cell]

theorem exists_true_iff {table : String} {depth : Nat} {condition : Expr} :
    (Expr.exists table depth condition).cell database rows = .bool true ↔
      ∃ row ∈ database table, condition.cell database (under rows depth row) = .bool true := by
  change Scalar.bool ((database table).any fun row =>
    decide (condition.cell database (under rows depth row) = .bool true)) = .bool true ↔ _
  simp

end True

end Expr

namespace Select

/-- The rows of the table of which the condition is true. -/
def matching (database : Database) (select : Select) : List Row :=
  match select.condition with
  | none => database select.table
  | some condition => (database select.table).filter fun row => condition.isTrue database fun _ => row

/-- What a count answers. -/
def counted (database : Database) (select : Select) : Nat :=
  (select.matching database).length

end Select

end ListQuery.Sql
