import ListQuery.Association
import ListQuery.Literal
import ListQuery.SortPlan
import ListQuery.Event
import ListQuery.Text.Lowercase

/-! Mappings: what a program says about a model's properties beside their declaration. Names
are kept in lower case, and every look-up lowers the name that it is given. -/

namespace ListQuery

/-- Makes a constant of a literal, in place of the field's own type. -/
abbrev Converter := String → Except LiteralFault Scalar

/-- A literal that a hook cannot read, with the type that it wants. -/
structure Rejection where
  value : String
  typeName : String
  fault : LiteralFault
deriving DecidableEq

/-- Makes the whole condition for a clause on a field. -/
abbrev CustomFilter :=
  FieldPath → List (Option String) → Filter.Operator → Except Rejection Predicate

/-- Changes a plan: given the direction asked for and whether the plan has a key so far. -/
abbrev CustomSort := SortPlan → Bool → Bool → SortPlan

/-- Another name for a property, perhaps with its own way to read literals. -/
structure Alias where
  target : String
  convert : Option Converter := none

/-- What is said about the properties of one model. -/
structure Mapping where
  aliases : Association String Alias := []
  filterIgnored : List String := []
  sortIgnored : List String := []
  customFilters : Association String CustomFilter := []
  customSorts : Association String CustomSort := []

/-- What a rule does with a property. -/
inductive Rule where
  /-- Requests may call the property by another name. -/
  | mapFrom (source : String) (convert : Option Converter)
  | ignoreForFiltering
  | ignoreForSorting
  | ignore
  | filterBy (hook : CustomFilter)
  | sortBy (hook : CustomSort)

/-- A rule and the property that it is about. -/
structure PropertyRule where
  property : String
  rule : Rule

namespace CustomFilter

/-- Reads every literal as the type that a hook asks for; the first that cannot be read is
rejected. -/
def readAll {α : Type} [FromLiteral α] : List (Option String) → Except Rejection (List α)
  | [] => .ok []
  | raw :: rest =>
    match FromLiteral.read (α := α) raw with
    | .error fault => .error ⟨raw.getD "null", FromLiteral.name α, fault⟩
    | .ok value =>
      match readAll rest with
      | .ok values => .ok (value :: values)
      | .error rejection => .error rejection

/-- A hook on literals of one type. -/
def typed {α : Type} [FromLiteral α]
    (condition : FieldPath → List α → Filter.Operator → Predicate) : CustomFilter :=
  fun path raw operator => (readAll raw).map fun values => condition path values operator

end CustomFilter

namespace Mapping

/-- The alias that a name is. -/
def alias? (mapping : Mapping) (name : String) : Option Alias :=
  mapping.aliases.get? (Text.lowercase name)

/-- Whether clauses on a property are passed over. -/
def ignoresFilter (mapping : Mapping) (property : String) : Bool :=
  mapping.filterIgnored.contains (Text.lowercase property)

/-- Whether order entries for a property are passed over. -/
def ignoresSort (mapping : Mapping) (property : String) : Bool :=
  mapping.sortIgnored.contains (Text.lowercase property)

/-- The hook for clauses on a property. -/
def customFilter? (mapping : Mapping) (property : String) : Option CustomFilter :=
  mapping.customFilters.get? (Text.lowercase property)

/-- The hook for order entries of a property. -/
def customSort? (mapping : Mapping) (property : String) : Option CustomSort :=
  mapping.customSorts.get? (Text.lowercase property)

/-- A name among others, once. -/
def insertName (name : String) (names : List String) : List String :=
  if names.contains name then names else names ++ [name]

/-- The mapping with one more rule. -/
def add (mapping : Mapping) (rule : PropertyRule) : Mapping :=
  let key := Text.lowercase rule.property
  match rule.rule with
  | .mapFrom source convert =>
    { mapping with
      aliases := mapping.aliases.put (Text.lowercase source) ⟨rule.property, convert⟩ }
  | .ignoreForFiltering =>
    { mapping with filterIgnored := insertName key mapping.filterIgnored }
  | .ignoreForSorting => { mapping with sortIgnored := insertName key mapping.sortIgnored }
  | .ignore =>
    { mapping with
      filterIgnored := insertName key mapping.filterIgnored
      sortIgnored := insertName key mapping.sortIgnored }
  | .filterBy hook => { mapping with customFilters := mapping.customFilters.put key hook }
  | .sortBy hook => { mapping with customSorts := mapping.customSorts.put key hook }

/-- The mapping with many more rules, in turn. -/
def addAll (mapping : Mapping) (rules : List PropertyRule) : Mapping :=
  rules.foldl add mapping

/-- The mapping by its constructor, under the name of its model if it has one. -/
def term (modelName : Option String) (mapping : Mapping) : Text.Term :=
  let name (text : String) : Text.Term := .word (Text.escaped text)
  .record "ModelMapping"
    [ ("model", .ofOption (modelName.map name)),
      ("aliases", .map (mapping.aliases.map fun (source, known) =>
        (Text.escaped source, .record "PropertyAlias"
          [("target", name known.target), ("convert", .ofBool known.convert.isSome)]))),
      ("ignored_filter", .set (mapping.filterIgnored.map name)),
      ("ignored_sort", .set (mapping.sortIgnored.map name)),
      ("custom_filters", .list (mapping.customFilters.map fun (property, _) => name property)),
      ("custom_sorts", .list (mapping.customSorts.map fun (property, _) => name property)) ]

end Mapping

end ListQuery
