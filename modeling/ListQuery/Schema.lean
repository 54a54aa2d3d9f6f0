import ListQuery.Text.Ascii

/-! Schemas: the models that records follow, each with its declared fields. -/

namespace ListQuery

/-- The type of a declared field. A record is of another model. -/
inductive FieldType (M : Type) where
  | bool
  | int
  | float
  | text
  | instant
  | list (element : FieldType M)
  | record (model : M)
deriving DecidableEq

/-- A declared field. -/
structure Field (M : Type) where
  name : String
  type : FieldType M
deriving DecidableEq

/-- A family of models. Fields are in the order of their declaration. -/
class Schema (M : Type) where
  name : M → String
  fields : M → List (Field M)

namespace Schema

/-- The first field with a name, the case of ASCII letters apart. -/
def field? {M : Type} [Schema M] (model : M) (name : String) : Option (Field M) :=
  (fields model).find? fun field => Text.sameIgnoringCase field.name name

end Schema

namespace FieldType

variable {M : Type}

/-- Whether text operators apply. -/
def isText : FieldType M → Bool
  | text => true
  | _ => false

/-- The type of a list's elements. -/
def element? : FieldType M → Option (FieldType M)
  | list element => some element
  | _ => none

/-- Lists and records have no order of their own. -/
def isSortable : FieldType M → Bool
  | list _ | record _ => false
  | _ => true

/-- The name of a type. -/
def name [Schema M] : FieldType M → String
  | bool => "bool"
  | int => "int"
  | float => "float"
  | text => "string"
  | instant => "datetime"
  | list element => "list<" ++ name element ++ ">"
  | record model => Schema.name model

end FieldType

end ListQuery
