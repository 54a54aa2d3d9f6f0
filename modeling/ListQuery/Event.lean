import ListQuery.Filter.Operator

/-! Events: what the work on a query reports beside its result. -/

namespace ListQuery

/-- Why a clause or an order entry is passed over. -/
inductive PassedOver where
  | unknown
  | ignoredForFiltering
  | ignoredForSorting
  | notSortable
deriving DecidableEq

/-- The reason in words. -/
def PassedOver.words : PassedOver → String
  | unknown => "unknown"
  | ignoredForFiltering => "ignored for filtering"
  | ignoredForSorting => "ignored for sorting"
  | notSortable => "not sortable"

/-- Something worth telling. -/
inductive Event where
  /-- A rule whose first name is no field of its model. -/
  | undeclaredRule (property modelName : String)
  | droppedFilter (property : String) (reason : PassedOver)
  | skippedOrdering (property : String) (reason : PassedOver)
  | customFilter (property : String) (operator : Filter.Operator) (count : Nat)
  | customSort (ascending ordered : Bool)
  | compiledQuery (entity statement : String)
  /-- A mapping file that says nothing of a model. -/
  | noSection (modelName : String)
  | loadedMapping (path : String) (models tables : Nat)
deriving DecidableEq

namespace Event

/-- How much an event matters. -/
inductive Level where
  | warning
  | information
  | detail
deriving DecidableEq

/-- The word for a level. -/
def Level.word : Level → String
  | warning => "WARN"
  | information => "INFO"
  | detail => "DEBUG"

/-- The level of an event. -/
def level : Event → Level
  | undeclaredRule .. => .warning
  | loadedMapping .. => .information
  | _ => .detail

private def truth (b : Bool) : String :=
  if b then "true" else "false"

/-- The text of an event. -/
def text : Event → String
  | undeclaredRule property modelName =>
    "mapping rule for '" ++ property ++ "' names a field that " ++ modelName
      ++ " does not declare"
  | droppedFilter property reason => "dropping filter on '" ++ property ++ "': " ++ reason.words
  | skippedOrdering property reason =>
    "skipping ordering property '" ++ property ++ "': " ++ reason.words
  | customFilter property operator count =>
    "custom filter for '" ++ property ++ "' (" ++ operator.symbol ++ " " ++ toString count
      ++ " value(s))"
  | customSort ascending ordered =>
    "custom sort (ascending=" ++ truth ascending ++ ", ordered=" ++ truth ordered ++ ")"
  | compiledQuery entity statement => "compiled " ++ entity ++ " query: " ++ statement
  | noSection modelName => "mapping file has no section for " ++ modelName
  | loadedMapping path models tables =>
    "loaded mapping file " ++ path ++ " (" ++ toString models ++ " models, " ++ toString tables
      ++ " tables)"

/-- The level and the text. -/
def line (event : Event) : String :=
  event.level.word ++ " " ++ event.text

end Event

end ListQuery
