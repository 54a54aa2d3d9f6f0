import ListQuery.Error
import ListQuery.OrderBy
import ListQuery.Resolve
import ListQuery.Traced

/-! Order-by texts compiled to sort plans. Built-in keys come first, in their order; then the
hooks run, in theirs. -/

namespace ListQuery

namespace OrderCompile

variable {M : Type} [Schema M] [DecidableEq M]

/-- A hook that is to run, with the direction asked for. -/
structure Deferred where
  hook : CustomSort
  ascending : Bool

/-- An entry that is passed over, or the error that it is in a strict configuration. -/
def skipped (config : Config M) (property : String) (reason : PassedOver) :
    Traced QueryError Unit :=
  if config.strict then .fail (.unresolvedOrdering property)
  else .tell (.skippedOrdering property reason)

/-- Adds the entries to a plan and to the hooks that are to run. -/
def collect (config : Config M) (model : M) (plan : SortPlan) (deferred : List Deferred) :
    List OrderBy.Entry → Traced QueryError (SortPlan × List Deferred)
  | [] => return (plan, deferred)
  | entry :: rest =>
    match resolve config model entry.property with
    | none => do
      skipped config entry.property .unknown
      collect config model plan deferred rest
    | some resolved =>
      if resolved.sortIgnored then do
        skipped config entry.property .ignoredForSorting
        collect config model plan deferred rest
      else
        match resolved.customSort with
        | some hook => collect config model plan (deferred ++ [⟨hook, entry.ascending⟩]) rest
        | none =>
          if resolved.type.isSortable then
            collect config model (plan.nextBy (.field resolved.path) entry.ascending) deferred rest
          else do
            skipped config entry.property .notSortable
            collect config model plan deferred rest

/-- Runs the hooks in turn. Each is told whether the plan has a key so far. -/
def runHooks (plan : SortPlan) : List Deferred → Traced QueryError SortPlan
  | [] => return plan
  | deferred :: rest => do
    .tell (.customSort deferred.ascending plan.isOrdered)
    runHooks (deferred.hook plan deferred.ascending plan.isOrdered) rest

end OrderCompile

/-- An order-by text as a sort plan for the records of a model. -/
def compileOrder {M : Type} [Schema M] [DecidableEq M] (config : Config M) (model : M)
    (text : String) : Traced QueryError SortPlan := do
  let (plan, deferred) ← OrderCompile.collect config model {} [] (OrderBy.parse text)
  OrderCompile.runHooks plan deferred

end ListQuery
