import ListQuery.Scalar

/-! Values: what the fields of a record hold. -/

namespace ListQuery

/-- A value of a record's field. A record is a list of named values. -/
inductive Value where
  | null
  | bool (value : Bool)
  | int (value : Int64)
  | float (value : Binary64)
  | text (value : String)
  | instant (value : Instant)
  | list (items : List Value)
  | record (fields : List (String × Value))
deriving Inhabited

/-- The types whose elements can be filtered: each element is seen as a value. -/
class Record (α : Type) where
  value : α → Value

instance : Record Value := ⟨id⟩

namespace Scalar

/-- The constant as a value. -/
def value : Scalar → Value
  | null => .null
  | bool b => .bool b
  | int i => .int i
  | float x => .float x
  | text s => .text s
  | instant t => .instant t

end Scalar

namespace Value

/-- Whether the value is null. -/
def isNull : Value → Bool
  | null => true
  | _ => false

/-- Whether the value is a record. -/
def isRecord : Value → Bool
  | record _ => true
  | _ => false

/-- The text of a text value. -/
def text? : Value → Option String
  | text s => some s
  | _ => none

/-- A value that is neither a list nor a record as a constant. -/
def scalar? : Value → Option Scalar
  | null => some .null
  | bool b => some (.bool b)
  | int i => some (.int i)
  | float x => some (.float x)
  | text s => some (.text s)
  | instant t => some (.instant t)
  | list _ | record _ => none

/-- The first field of a name. -/
def fieldOf? (name : String) : List (String × Value) → Option Value
  | [] => none
  | (key, value) :: rest => if key = name then some value else fieldOf? name rest

theorem scalar?_value (constant : Scalar) : constant.value.scalar? = some constant := by
  cases constant <;> rfl

mutual

/-- The value by its constructor. Records keep their fields to themselves. -/
def term : Value → Text.Term
  | null => .word "Null"
  | bool b => .tuple "Bool" [.ofBool b]
  | int i => .tuple "Int" [.word (toString i.toInt)]
  | float x => .tuple "Float" [.word (x.written .plain)]
  | text s => .tuple "Str" [.word (Text.escaped s)]
  | instant t => .tuple "DateTime" [.word t.spaced]
  | list items => .tuple "List" [.list (terms items)]
  | record _ => .word "Record(..)"

private def terms : List Value → List Text.Term
  | [] => []
  | value :: rest => term value :: terms rest

end

end Value

end ListQuery
