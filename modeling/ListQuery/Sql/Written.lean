import ListQuery.Sql.Expr

/-! SQL statements as text. -/

namespace ListQuery.Sql

/-- An identifier between double quotes, its own quotes doubled. -/
def identifier (name : String) : String :=
  String.ofList ('"' :: (name.toList.flatMap fun c => if c = '"' then ['"', '"'] else [c]) ++ ['"'])

/-- How one character stands inside a text constant. -/
def escapedChar (c : Char) : List Char :=
  if c = '\\' || c = '"' || c = '\'' then ['\\', c]
  else if c = '\x00' then ['\\', '0']
  else if c = '\x08' then ['\\', 'b']
  else if c = '\t' then ['\\', 't']
  else if c = '\x1a' then ['\\', 'z']
  else if c = '\n' then ['\\', 'n']
  else if c = '\r' then ['\\', 'r']
  else [c]

/-- A text constant. One with a backslash has the mark of escapes before it. -/
def textConstant (text : String) : String :=
  let escaped := text.toList.flatMap escapedChar
  (if escaped.contains '\\' then "E'" else "'") ++ String.ofList escaped ++ "'"

/-- A constant. Instants are written as texts. -/
def constant : Scalar → String
  | .null => "NULL"
  | .bool value => if value then "TRUE" else "FALSE"
  | .int value => toString value.toInt
  | .float value => value.written .plain
  | .text value => textConstant value
  | .instant value => textConstant value.rfc3339

/-- The sign of a comparison. -/
def sign : Comparison → String
  | .eq => "="
  | .ne => "<>"
  | .gt => ">"
  | .ge => ">="
  | .lt => "<"
  | .le => "<="

/-- The alias of a depth. -/
def aliasName (depth : Nat) : String :=
  "t" ++ toString depth

/-- A table under its alias. -/
def tableAs (table : String) (depth : Nat) : String :=
  identifier table ++ " AS " ++ identifier (aliasName depth)

namespace Expr

/-- Joins, which need parentheses inside other joins. -/
def isJoin : Expr → Bool
  | and .. | or .. | not .. => true
  | _ => false

/-- Whether a condition is a conjunction. -/
def isAnd : Expr → Bool
  | and .. => true
  | _ => false

/-- Whether a condition is a disjunction. -/
def isOr : Expr → Bool
  | or .. => true
  | _ => false

/-- Parentheses, if asked for. -/
def enclosed (inside : Bool) (text : String) : String :=
  if inside then "(" ++ text ++ ")" else text

/-- The condition as text. Both joins associate to the left, so a left side of the same join
needs no parentheses; every other join inside a join has them. -/
def written : Expr → String
  | column depth name => identifier (aliasName depth) ++ "." ++ identifier name
  | constant scalar => Sql.constant scalar
  | lower value => "LOWER(" ++ value.written ++ ")"
  | orFalse value => "COALESCE(" ++ value.written ++ ", FALSE)"
  | compare comparison left right => left.written ++ " " ++ sign comparison ++ " " ++ right.written
  | isNull value => value.written ++ " IS NULL"
  | isNotNull value => value.written ++ " IS NOT NULL"
  | inList value constants =>
    value.written ++ " IN (" ++ ", ".intercalate (constants.map Sql.constant) ++ ")"
  | like value pattern => value.written ++ " LIKE " ++ textConstant pattern ++ " ESCAPE E'\\\\'"
  | and left right =>
    enclosed (left.isJoin && !left.isAnd) left.written ++ " AND "
      ++ enclosed right.isJoin right.written
  | or left right =>
    enclosed (left.isJoin && !left.isOr) left.written ++ " OR "
      ++ enclosed right.isJoin right.written
  | not value => "NOT " ++ enclosed value.isJoin value.written
  | .exists table depth condition =>
    "EXISTS(SELECT 1 FROM " ++ tableAs table depth ++ " WHERE " ++ condition.written ++ ")"

end Expr

namespace Select

/-- The columns to order by, after their word. -/
def orderText (order : List OrderColumn) : String :=
  if order.isEmpty then ""
  else
    " ORDER BY " ++ ", ".intercalate (order.map fun column =>
      identifier (aliasName 0) ++ "." ++ identifier column.name
        ++ if column.ascending then " ASC" else " DESC")

/-- The selection as text. -/
def written (select : Select) : String :=
  "SELECT " ++ (match select.projection with | .rows => "*" | .count => "COUNT(*)")
    ++ " FROM " ++ tableAs select.table 0
    ++ (match select.condition with | some c => " WHERE " ++ c.written | none => "")
    ++ orderText select.order
    ++ (match select.limit with | some n => " LIMIT " ++ toString n | none => "")
    ++ (match select.offset with | some n => " OFFSET " ++ toString n | none => "")

end Select

end ListQuery.Sql
