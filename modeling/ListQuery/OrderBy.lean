import ListQuery.Text.Blank
import ListQuery.Text.Quoted

/-! Order-by texts: properties between commas, each with a direction. -/

namespace ListQuery.OrderBy

/-- A property to order by. -/
structure Entry where
  property : String
  ascending : Bool
deriving DecidableEq

/-- The pieces between the commas that stand outside of quotes. Each quote opens or closes. -/
def pieces (quoted : Bool) : List Char → List (List Char)
  | [] => [[]]
  | c :: rest =>
    let quoted' := if c = '\'' then !quoted else quoted
    match pieces quoted' rest with
    | [] => [[c]]
    | first :: later =>
      if c = ',' && !quoted then [] :: first :: later else (c :: first) :: later

/-- A property without the quotes around it; doubled quotes in it are read as one. -/
def unquote (text : List Char) : List Char :=
  let inner :=
    match text with
    | '\'' :: rest => if rest.getLast? = some '\'' then rest.dropLast else text
    | _ => text
  Text.undoubleQuotes inner

/-- One piece: a minus sign turns the direction. A piece without a property is none. -/
def entry? (piece : List Char) : Option Entry :=
  let (ascending, rest) :=
    match Text.trim piece with
    | '-' :: rest => (false, Text.trimStart rest)
    | rest => (true, rest)
  let property := unquote rest
  if property.isEmpty then none else some ⟨String.ofList property, ascending⟩

/-- The entries of an order-by text. -/
def parse (text : String) : List Entry :=
  (pieces false text.toList).filterMap entry?

end ListQuery.OrderBy
