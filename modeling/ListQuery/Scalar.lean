import ListQuery.Calendar.Written
import ListQuery.Number.Written
import ListQuery.Text.Escaped
import ListQuery.Text.Lowercase
import ListQuery.Text.Quoted
import ListQuery.Text.Term

/-! Scalars: the constants that a field can be compared with. -/

namespace ListQuery

/-- A constant of a filter. -/
inductive Scalar where
  | null
  | bool (value : Bool)
  | int (value : Int64)
  | float (value : Binary64)
  | text (value : String)
  | instant (value : Instant)
deriving DecidableEq

namespace Scalar

/-- Whether the constant is null. -/
def isNull : Scalar → Bool
  | null => true
  | _ => false

/-- Constants are the same when they have one kind and one value, floats in numeric order:
the two zeros are the same, and what is no number is not the same as itself. -/
def same : Scalar → Scalar → Bool
  | null, null => true
  | bool a, bool b => a == b
  | int a, int b => a == b
  | float a, float b => a.same b
  | text a, text b => a == b
  | instant a, instant b => a == b
  | _, _ => false

/-- A text in lower case; other constants as they are. -/
def foldCase : Scalar → Scalar
  | text value => text (Text.lowercase value)
  | other => other

/-- The constant as a literal of the filter language. -/
def literal : Scalar → String
  | null => "null"
  | bool value => if value then "true" else "false"
  | int value => toString value.toInt
  | float value => value.written .plain
  | text value => Text.quoted value
  | instant value => "'" ++ value.rfc3339 ++ "'"

/-- The constant by its constructor. -/
def term : Scalar → Text.Term
  | null => .word "Null"
  | bool value => .tuple "Bool" [.ofBool value]
  | int value => .tuple "Int" [.word (toString value.toInt)]
  | float value => .tuple "Float" [.word (value.written .precise)]
  | text value => .tuple "String" [.word (Text.escaped value)]
  | instant value => .tuple "DateTime" [.word value.zulu]

end Scalar

end ListQuery
