import ListQuery.Json.Decode
import ListQuery.Sql.Compile

/-! Mapping files: names, ignored properties and tables of a program's models, as JSON. -/

namespace ListQuery

/-- What a file says of one model. -/
structure ModelSection where
  aliases : Association String String := []
  ignore : List String := []
  ignoreFilter : List String := []
  ignoreSort : List String := []
deriving DecidableEq

/-- A mapping file. Models and collections stand under names, tables under those of entities. -/
structure MappingFile where
  strict : Bool := false
  models : Association String ModelSection := []
  tables : Association String String := []
  collections : Association String (Association String Sql.CollectionTable) := []
deriving DecidableEq

/-- What a reader finds where a file should be. -/
inductive FileContent where
  | missing
  | unreadable
  | text (content : String)
deriving DecidableEq

/-- Why there is no mapping file. -/
inductive MappingFileError where
  | missing (path : String)
  | unreadable (path : String)
  | malformed (path : String)
deriving DecidableEq

namespace ModelSection

/-- A section. Every field may be missing. -/
def ofJson? (json : Json) : Option ModelSection := do
  match ← Json.fields? ["aliases", "ignore", "ignoreFilter", "ignoreSort"] json with
  | [aliases, ignore, ignoreFilter, ignoreSort] =>
    let aliases ← Json.orDefault [] (Json.map? Json.text?) aliases
    let ignore ← Json.orDefault [] (Json.list? Json.text?) ignore
    let ignoreFilter ← Json.orDefault [] (Json.list? Json.text?) ignoreFilter
    let ignoreSort ← Json.orDefault [] (Json.list? Json.text?) ignoreSort
    return { aliases, ignore, ignoreFilter, ignoreSort }
  | _ => none

/-- The rules of a section: aliases, and then what is ignored. -/
def rules (modelSection : ModelSection) : List PropertyRule :=
  (modelSection.aliases.map fun (source, target) => ⟨target, .mapFrom source none⟩)
    ++ (modelSection.ignore.map fun property => ⟨property, .ignore⟩)
    ++ (modelSection.ignoreFilter.map fun property => ⟨property, .ignoreForFiltering⟩)
    ++ (modelSection.ignoreSort.map fun property => ⟨property, .ignoreForSorting⟩)

end ModelSection

/-- A table of a collection. The column of values may be missing. -/
def Sql.CollectionTable.ofJson? (json : Json) : Option CollectionTable := do
  match ← Json.fields? ["table", "foreignKey", "valueColumn"] json with
  | [some table, some foreignKey, valueColumn] =>
    let table ← Json.text? table
    let foreignKey ← Json.text? foreignKey
    let valueColumn ← Json.orDefault "value" Json.text? valueColumn
    return { table, foreignKey, valueColumn }
  | _ => none

namespace MappingFile

/-- The options of a file. -/
private def strictOfJson? (json : Json) : Option Bool := do
  match ← Json.fields? ["strict"] json with
  | [strict] => Json.orDefault false Json.bool? strict
  | _ => none

/-- A file. Every field may be missing. -/
def ofJson? (json : Json) : Option MappingFile := do
  match ← Json.fields? ["options", "models", "tables", "collections"] json with
  | [options, models, tables, collections] =>
    let strict ← Json.orDefault false strictOfJson? options
    let models ← Json.orDefault [] (Json.map? ModelSection.ofJson?) models
    let tables ← Json.orDefault [] (Json.map? Json.text?) tables
    let collections ←
      Json.orDefault [] (Json.map? (Json.map? Sql.CollectionTable.ofJson?)) collections
    return { strict, models, tables, collections }
  | _ => none

/-- The file of a text. -/
def parse? (content : String) : Option MappingFile :=
  (Json.read? content).bind ofJson?

/-- The file at a path. -/
def load (path : String) (content : FileContent) : Traced MappingFileError MappingFile :=
  match content with
  | .missing => .fail (.missing path)
  | .unreadable => .fail (.unreadable path)
  | .text content =>
    match parse? content with
    | none => .fail (.malformed path)
    | some file => do
      .tell (.loadedMapping path file.models.length file.tables.length)
      return file

/-- The first section under a model's name, the case of ASCII letters apart. -/
def section? (file : MappingFile) (modelName : String) : Option ModelSection :=
  (file.models.find? fun (name, _) => Text.sameIgnoringCase name modelName).map (·.2)

/-- A configuration with the file's options, and the rules of a model's section on top of those
that it has. -/
def configure {M : Type} [Schema M] [DecidableEq M] (file : MappingFile) (model : M)
    (config : Config M) : List Event × Config M :=
  let config := { config with strict := file.strict }
  match file.section? (Schema.name model) with
  | none => ([.noSection (Schema.name model)], config)
  | some found => config.configure model found.rules

/-- The tables of the file, and the collections of an entity, the case of ASCII letters in its
name apart. -/
def catalog (file : MappingFile) (entity : String) : Sql.Catalog :=
  { tables := file.tables
    collections := Association.ofList
      ((file.collections.filter fun (name, _) => Text.sameIgnoringCase name entity).flatMap (·.2)) }

end MappingFile

/-- The wording of an error. -/
def MappingFileError.message : MappingFileError → String
  | missing path => "config file not found: " ++ path
  | unreadable path => "cannot read config file " ++ path
  | malformed path => "cannot parse config file " ++ path

end ListQuery
