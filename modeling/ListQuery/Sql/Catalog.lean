import ListQuery.Association
import ListQuery.Text.Lowercase

/-! Catalogs: what is known of the database that statements are for. -/

namespace ListQuery.Sql

/-- The table that holds the elements of a collection, each with the parent's identity under a
foreign key, and elements that are no records in a column for values. -/
structure CollectionTable where
  table : String
  foreignKey : String
  valueColumn : String := "value"
deriving DecidableEq

/-- What is known of the database. Collections stand under their dotted path from the root. -/
structure Catalog where
  /-- From so many equalities on, a disjunction becomes a list. -/
  threshold : Nat := 3
  tables : Association String String := []
  collections : Association String CollectionTable := []

namespace Catalog

/-- The table of an entity: the one registered, or its name in lower case. -/
def tableName (catalog : Catalog) (entity : String) : String :=
  (catalog.tables.get? entity).getD (Text.lowercase entity)

end Catalog

end ListQuery.Sql
