import ListQuery.Calendar.Reading
import ListQuery.Scalar
import ListQuery.Schema

/-! Literals become constants of a field's type, or values of a type that a hook asks for. A
literal is a text, or nothing for null. -/

namespace ListQuery

/-- Why a literal has no value of a type. -/
inductive LiteralFault where
  | numeral (fault : NumeralFault)
  | notTruthValue
  | notInstant
  | recordType
  | nullNotAllowed
  /-- A constant that is no text, for an operator on text. -/
  | notPattern
  | rejected (reason : String)
deriving DecidableEq

namespace LiteralFault

/-- The wording of a fault. -/
def message : LiteralFault → String
  | numeral fault => fault.message
  | notTruthValue => "expected true or false"
  | notInstant => "expected an RFC 3339 timestamp or YYYY-MM-DD date"
  | recordType => "records cannot be compared with a literal"
  | nullNotAllowed => "null is not allowed here"
  | notPattern => "text operators need a string pattern"
  | rejected reason => reason

end LiteralFault

namespace Literal

/-- The truth values by their words, in any case. -/
def bool (raw : String) : Except LiteralFault Bool :=
  if Text.sameIgnoringCase raw "true" then .ok true
  else if Text.sameIgnoringCase raw "false" then .ok false
  else .error .notTruthValue

/-- An instant in one of its forms. -/
def instant (raw : String) : Except LiteralFault Instant :=
  match Calendar.read? raw with
  | some i => .ok i
  | none => .error .notInstant

/-- An integer between bounds. -/
def integer (least greatest : Int) (raw : String) : Except LiteralFault Int :=
  (Numeral.integer least greatest raw.toList).mapError .numeral

/-- An integer of 64 bits. -/
def int64 (raw : String) : Except LiteralFault Int64 :=
  (Numeral.int64 raw).mapError .numeral

/-- A floating-point number. -/
def float (raw : String) : Except LiteralFault Binary64 :=
  (Numeral.float raw).mapError .numeral

/-- The constant that a text stands for at a type. A list takes the literals of its elements. -/
def scalarOf {M : Type} (raw : String) : FieldType M → Except LiteralFault Scalar
  | .bool => (bool raw).map .bool
  | .int => (int64 raw).map .int
  | .float => (float raw).map .float
  | .text => .ok (.text raw)
  | .instant => (instant raw).map .instant
  | .list element => scalarOf raw element
  | .record _ => .error .recordType

/-- The constant that a literal stands for at a type. Null is null at every type. -/
def scalar {M : Type} (raw : Option String) (type : FieldType M) : Except LiteralFault Scalar :=
  match raw with
  | none => .ok .null
  | some raw => scalarOf raw type

end Literal

/-- The types that a hook can read its literals as. -/
class FromLiteral (α : Type) where
  /-- The type's name in messages. -/
  name : String
  /-- The value of a literal. -/
  read : Option String → Except LiteralFault α

namespace FromLiteral

/-- Reads a literal that must not be null. -/
def required {α : Type} (read : String → Except LiteralFault α) :
    Option String → Except LiteralFault α
  | none => .error .nullNotAllowed
  | some raw => read raw

instance : FromLiteral Int32 :=
  ⟨"i32", required fun raw =>
    (Literal.integer Int32.minValue.toInt Int32.maxValue.toInt raw).map Int32.ofInt⟩

instance : FromLiteral Int64 :=
  ⟨"i64", required Literal.int64⟩

instance : FromLiteral UInt32 :=
  ⟨"u32", required fun raw =>
    (Literal.integer 0 (UInt32.size - 1 : Nat) raw).map fun i => UInt32.ofNat i.toNat⟩

instance : FromLiteral UInt64 :=
  ⟨"u64", required fun raw =>
    (Literal.integer 0 (UInt64.size - 1 : Nat) raw).map fun i => UInt64.ofNat i.toNat⟩

instance : FromLiteral Binary64 :=
  ⟨"f64", required Literal.float⟩

instance : FromLiteral Bool :=
  ⟨"bool", required Literal.bool⟩

instance : FromLiteral String :=
  ⟨"string", required .ok⟩

instance : FromLiteral Instant :=
  ⟨"datetime", required Literal.instant⟩

/-- Null is the absent value. -/
instance {α : Type} [FromLiteral α] : FromLiteral (Option α) where
  name := name α
  read
    | none => .ok none
    | some raw => (read (some raw) : Except LiteralFault α).map some

end FromLiteral

end ListQuery
