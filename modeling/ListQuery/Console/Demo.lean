import ListQuery.Config
import ListQuery.Sql.Compile
import ListQuery.Value

/-! The data that the command line queries: three users with their orders. -/

namespace ListQuery.Console

/-- The models of the demonstration. -/
inductive DemoModel where
  | user
  | order
deriving DecidableEq

instance : Schema DemoModel where
  name
    | .user => "User"
    | .order => "Order"
  fields
    | .user =>
      [ ⟨"id", .int⟩, ⟨"name", .text⟩, ⟨"age", .int⟩, ⟨"email", .text⟩, ⟨"tags", .list .text⟩,
        ⟨"orders", .list (.record .order)⟩ ]
    | .order => [⟨"total", .float⟩, ⟨"status", .text⟩]

/-- An order. -/
structure Order where
  total : Binary64
  status : String

/-- A user. -/
structure User where
  id : Int64
  name : String
  age : Int64
  email : Option String
  tags : List String
  orders : List Order

/-- The order as a value. -/
def Order.value (order : Order) : Value :=
  .record [("total", .float order.total), ("status", .text order.status)]

instance : Record User where
  value user :=
    .record
      [ ("id", .int user.id),
        ("name", .text user.name),
        ("age", .int user.age),
        ("email", (user.email.map Value.text).getD .null),
        ("tags", .list (user.tags.map Value.text)),
        ("orders", .list (user.orders.map Order.value)) ]

/-- A number with one place after the point, given in tenths. -/
private def tenths (n : Nat) : Binary64 :=
  Binary64.nearest false n 10

/-- The users. -/
def users : List User :=
  [ { id := 1, name := "John", age := 25, email := some "john@example.com", tags := ["new"],
      orders := [⟨tenths 125, "shipped"⟩] },
    { id := 2, name := "Jane", age := 31, email := none, tags := ["vip", "beta"],
      orders := [⟨tenths 2500, "shipped"⟩, ⟨tenths 400, "pending"⟩] },
    { id := 3, name := "Bob", age := 40, email := some "bob@example.com", tags := [],
      orders := [] } ]

/-- The rules that hold without a mapping file. -/
def builtInConfig : Config DemoModel :=
  (({} : Config DemoModel).configure .user
    [⟨"name", .mapFrom "fullName" none⟩, ⟨"email", .mapFrom "mail" none⟩]).2

/-- The tables that hold without a mapping file. -/
def builtInCatalog : Sql.Catalog :=
  { collections := Association.ofList
      [ ("tags", { table := "user_tags", foreignKey := "user_id", valueColumn := "tag" }),
        ("orders", { table := "orders", foreignKey := "user_id" }) ] }

end ListQuery.Console
