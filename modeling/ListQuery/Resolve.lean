import ListQuery.Config
import ListQuery.Schema

/-! Properties as a request names them, and the fields that they stand for. Each name between
the points of a property may be an alias of its model; what it stands for is looked up among the
declared fields, and only records can be walked through. -/

namespace ListQuery

/-- A walk along declared fields: their names, the model that declares the last one, and its
type. -/
structure Walk (M : Type) where
  names : FieldPath
  owner : M
  type : FieldType M

/-- A property found: its field, what the mappings say of it, and how its literals are read. -/
structure Resolved (M : Type) where
  path : FieldPath
  type : FieldType M
  convert : Option Converter
  filterIgnored : Bool
  sortIgnored : Bool
  customFilter : Option CustomFilter
  customSort : Option CustomSort

namespace Resolve

variable {M : Type} [Schema M]

/-- The walk with one more field in front. -/
def stepBefore (field : Field M) (walk : Walk M) : Walk M :=
  { walk with names := field.name :: walk.names }

/-- Walks along declared fields from a model. -/
def walkFields (model : M) : List String → Option (Walk M)
  | [] => none
  | name :: rest =>
    match Schema.field? model name with
    | none => none
    | some field =>
      if rest.isEmpty then some ⟨[field.name], model, field.type⟩
      else
        match field.type with
        | .record next => (walkFields next rest).map (stepBefore field)
        | _ => none

variable [DecidableEq M]

/-- Walks along what one segment stands for: the target of an alias, or the segment itself. -/
def walkSegment (config : Config M) (model : M) (segment : String) :
    Option (Walk M × Option Converter) :=
  match (config.mapping model).alias? segment with
  | some known => (walkFields model (Text.splitAt '.' known.target)).map (·, known.convert)
  | none => (walkFields model [segment]).map (·, none)

/-- Walks along the segments of a property. The last one decides how literals are read. -/
def walkSegments (config : Config M) (model : M) :
    List String → Option (Walk M × Option Converter)
  | [] => none
  | segment :: rest =>
    match walkSegment config model segment with
    | none => none
    | some (walk, convert) =>
      if rest.isEmpty then some (walk, convert)
      else
        match walk.type with
        | .record next =>
          (walkSegments config next rest).map fun (later, convert) =>
            ({ later with names := walk.names ++ later.names }, convert)
        | _ => none

/-- What the mappings say of a field: those of the root by the whole path, those of the
declaring model by the name. -/
def annotate (config : Config M) (root : M) (walk : Walk M) (convert : Option Converter) :
    Resolved M :=
  let rootMapping := config.mapping root
  let ownerMapping := config.mapping walk.owner
  let full := walk.names.dotted
  let last := (walk.names.getLast?).getD ""
  { path := walk.names
    type := walk.type
    convert
    filterIgnored := rootMapping.ignoresFilter full || ownerMapping.ignoresFilter last
    sortIgnored := rootMapping.ignoresSort full || ownerMapping.ignoresSort last
    customFilter := (rootMapping.customFilter? full).or (ownerMapping.customFilter? last)
    customSort := (rootMapping.customSort? full).or (ownerMapping.customSort? last) }

end Resolve

/-- The field that a property stands for. -/
def resolve {M : Type} [Schema M] [DecidableEq M] (config : Config M) (model : M)
    (property : String) : Option (Resolved M) :=
  if property.isEmpty then none
  else
    (Resolve.walkSegments config model (Text.splitAt '.' property)).map fun (walk, convert) =>
      Resolve.annotate config model walk convert

/-- The property found by its constructor. -/
def Resolved.term {M : Type} [Schema M] (resolved : Resolved M) : Text.Term :=
  .record "ResolvedProperty"
    [ ("path", resolved.path.term),
      ("field_type", .word resolved.type.name),
      ("filter_ignored", .ofBool resolved.filterIgnored),
      ("sort_ignored", .ofBool resolved.sortIgnored),
      ("custom_filter", .ofBool resolved.customFilter.isSome),
      ("custom_sort", .ofBool resolved.customSort.isSome) ]

end ListQuery
