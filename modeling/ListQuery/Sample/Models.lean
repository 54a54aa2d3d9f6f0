import ListQuery.Schema

/-! A sample schema: the records of a shop, with models that refer to each other and to
themselves, and two models with unusual names and types. -/

namespace ListQuery.Sample

/-- The models of the sample. -/
inductive Model where
  | user
  | address
  | geo
  | order
  | line
  | pair
  | odd
deriving DecidableEq

namespace Model

/-- All models. -/
def all : List Model :=
  [user, address, geo, order, line, pair, odd]

/-- The name of a model. -/
def name : Model → String
  | user => "User"
  | address => "Address"
  | geo => "Geo"
  | order => "Order"
  | line => "Line"
  | pair => "Pair"
  | odd => "Odd"

/-- The fields of a model. -/
def fields : Model → List (Field Model)
  | user =>
    [ ⟨"id", .int⟩, ⟨"name", .text⟩, ⟨"age", .int⟩, ⟨"email", .text⟩, ⟨"active", .bool⟩,
      ⟨"score", .float⟩, ⟨"joined", .instant⟩, ⟨"address", .record address⟩,
      ⟨"manager", .record user⟩, ⟨"items", .list .int⟩, ⟨"tags", .list .text⟩,
      ⟨"rates", .list .float⟩, ⟨"flags", .list .bool⟩, ⟨"stamps", .list .instant⟩,
      ⟨"orders", .list (.record order)⟩, ⟨"friends", .list (.record user)⟩,
      ⟨"matrix", .list (.list .int)⟩ ]
  | address =>
    [⟨"street", .text⟩, ⟨"city", .text⟩, ⟨"zip", .text⟩, ⟨"geo", .record geo⟩]
  | geo => [⟨"lat", .float⟩, ⟨"lng", .float⟩]
  | order =>
    [ ⟨"id", .int⟩, ⟨"total", .float⟩, ⟨"status", .text⟩, ⟨"placed", .instant⟩,
      ⟨"lines", .list (.record line)⟩, ⟨"customer", .record user⟩ ]
  | line => [⟨"sku", .text⟩, ⟨"qty", .int⟩, ⟨"price", .float⟩]
  | pair => [⟨"a", .int⟩, ⟨"b", .int⟩]
  | odd =>
    [ ⟨"CamelCase", .text⟩, ⟨"camelcase", .int⟩, ⟨"a_b", .int⟩, ⟨"_x", .text⟩, ⟨"x1", .float⟩,
      ⟨"true", .bool⟩, ⟨"null", .int⟩, ⟨"andy", .int⟩, ⟨"Äpfel", .text⟩, ⟨"größe", .int⟩,
      ⟨"名前", .text⟩, ⟨"q\"uote", .text⟩, ⟨"names", .list .text⟩, ⟨"grid", .list (.list .text)⟩,
      ⟨"pairs", .list (.list (.record pair))⟩ ]

instance : Schema Model where
  name := name
  fields := fields

/-- The model of a name. -/
def ofName? (modelName : String) : Option Model :=
  all.find? fun model => model.name == modelName

end Model

/-- The field type of a name. -/
def typeOfName? : List Char → Option (FieldType Model)
  | 'l' :: 'i' :: 's' :: 't' :: '<' :: rest => (typeOfName? rest.dropLast).map .list
  | name =>
    let name := String.ofList name
    if name = "bool" then some .bool
    else if name = "int" then some .int
    else if name = "float" then some .float
    else if name = "string" then some .text
    else if name = "datetime" then some .instant
    else (Model.ofName? name).map .record
termination_by name => name.length

end ListQuery.Sample
