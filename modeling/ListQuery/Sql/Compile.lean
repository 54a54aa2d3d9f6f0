import ListQuery.Query
import ListQuery.Sql.Condition
import ListQuery.Sql.Written

/-! Plans compiled to SQL: the selection of their rows, and the number of all rows that meet the
filter. -/

namespace ListQuery.Sql

/-- The condition of a plan's filter. -/
def planCondition (catalog : Catalog) (plan : Plan) :
    Except SqlError (Option Expr × List OrToIn) :=
  match plan.filter with
  | none => .ok (none, [])
  | some predicate => do
    let (expr, steps) ← condition catalog {} predicate
    return (some expr, steps)

/-- The columns of a plan's keys. -/
def orderColumns : List SortKey → Except SqlError (List OrderColumn)
  | [] => .ok []
  | key :: rest =>
    match key.target with
    | .computed computed => .error (.computedSortKey computed.name)
    | .field path => do
      let later ← orderColumns rest
      return ⟨path.joined "_", key.ascending⟩ :: later

/-- The selection of a plan's rows, and the disjunctions that became lists. -/
def selectWith (catalog : Catalog) (plan : Plan) (entity : String) :
    Except SqlError (Select × List OrToIn) := do
  let (where?, steps) ← planCondition catalog plan
  let order ← orderColumns plan.ordering.keys
  return ({ projection := .rows
            table := catalog.tableName entity
            condition := where?
            order
            limit := plan.window.limit
            offset := plan.window.offset }, steps)

/-- The selection of a plan's rows. -/
def select (catalog : Catalog) (plan : Plan) (entity : String) : Except SqlError Select :=
  (selectWith catalog plan entity).map (·.1)

/-- The number of rows that meet a plan's filter. -/
def count (catalog : Catalog) (plan : Plan) (entity : String) : Except SqlError Select := do
  let (where?, _) ← planCondition catalog plan
  return { projection := .count, table := catalog.tableName entity, condition := where? }

/-- Both selections of a plan, and the disjunctions that became lists. -/
structure Statements where
  rows : Select
  count : Select
  steps : List OrToIn

/-- A plan as SQL. -/
def compile (catalog : Catalog) (plan : Plan) (entity : String) : Traced SqlError Statements := do
  let (rows, steps) ← .ofExcept (selectWith catalog plan entity)
  let count ← .ofExcept (count catalog plan entity)
  .tell (.compiledQuery entity rows.written)
  return { rows, count, steps }

end ListQuery.Sql
