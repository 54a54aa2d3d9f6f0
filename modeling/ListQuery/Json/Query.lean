import ListQuery.Json.Writer
import ListQuery.Query

/-! Queries as JSON. -/

namespace ListQuery.Query

/-- A number, or null. -/
private def jsonNumber (n : Option Int64) : String :=
  (n.map fun n => toString n.toInt).getD "null"

/-- The query as JSON, its fields in order. -/
def json (query : Query) : String :=
  "\x7b\"filter\":" ++ Json.writtenText query.filter ++ ",\"orderBy\":"
    ++ Json.writtenText query.orderBy ++ ",\"offset\":" ++ jsonNumber query.offset
    ++ ",\"limit\":" ++ jsonNumber query.limit ++ "\x7d"

end ListQuery.Query
