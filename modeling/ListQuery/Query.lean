import ListQuery.Compile.Filter
import ListQuery.Compile.Order
import ListQuery.Window

/-! Queries on lists of records: filter, order and window, each given as text or numbers. -/

namespace ListQuery

/-- A request for some rows of a list. -/
structure Query where
  filter : String := ""
  orderBy : String := ""
  offset : Option Int64 := none
  limit : Option Int64 := none
deriving DecidableEq

/-- A compiled query. -/
structure Plan where
  filter : Option Predicate := none
  ordering : SortPlan := {}
  window : Window := {}

namespace Query

/-- The query by its constructor. -/
def term (query : Query) : Text.Term :=
  let number (n : Option Int64) : Text.Term :=
    .ofOption (n.map fun n => .word (toString n.toInt))
  .record "QueryModel"
    [ ("filter", .word (Text.escaped query.filter)),
      ("order_by", .word (Text.escaped query.orderBy)),
      ("offset", number query.offset),
      ("limit", number query.limit) ]

end Query

namespace Plan

variable {M : Type} [Schema M] [DecidableEq M] {α : Type} [Record α]

/-- Compiles the filter, then the ordering. The first error of the two counts. -/
def compile (config : Config M) (model : M) (query : Query) : Traced QueryError Plan := do
  let filter ← compileFilter config model query.filter
  let ordering ← compileOrder config model query.orderBy
  return { filter, ordering, window := .ofNumbers query.offset query.limit }

/-- The rows that meet the filter. -/
def applyFilter (plan : Plan) (rows : List α) : List α :=
  match plan.filter with
  | some predicate => rows.filter fun row => predicate.holds (Record.value row)
  | none => rows

/-- The rows in order, as far as they are in the window. -/
def applyPage (plan : Plan) (rows : List α) : List α :=
  plan.window.apply (plan.ordering.sort rows)

/-- The rows that the query asks for. -/
def apply (plan : Plan) (rows : List α) : List α :=
  plan.applyPage (plan.applyFilter rows)

end Plan

namespace Query

variable {M : Type} [Schema M] [DecidableEq M] {α : Type} [Record α]

/-- Runs a query on a list of records. Without paging only the filter counts, and the rest is
not even compiled. -/
def run (config : Config M) (model : M) (paging : Bool) (query : Query) (rows : List α) :
    Traced QueryError (List α) := do
  if paging then
    let plan ← Plan.compile config model query
    return plan.apply rows
  else
    let filter ← compileFilter config model query.filter
    return ({ filter } : Plan).apply rows

/-- Orders and pages rows without filtering them. -/
def runPage (config : Config M) (model : M) (orderBy : String) (offset limit : Option Int64)
    (rows : List α) : Traced QueryError (List α) := do
  let ordering ← compileOrder config model orderBy
  return ({ ordering, window := .ofNumbers offset limit } : Plan).applyPage rows

end Query

end ListQuery
