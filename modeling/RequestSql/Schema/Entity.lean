import RequestSql.Names.Map

/-!
# Entities

What a schema says about one entity: its table, the columns behind its fields, and the
entities that it is associated with. A row of the entity and a row of an associated one
belong together when the source keys, columns of the associated table, equal the target
keys, columns of the entity's own table, pair by pair.

Key definitions: `Association`, `Entity`, `Catalog`.
-/

namespace RequestSql

/-- How an entity is associated with another one. -/
structure Association where
  /-- The name of the other entity. -/
  entity : String
  /-- Columns of the other entity's table. -/
  sourceKeys : List String
  /-- Columns of the own table, in the same order. -/
  targetKeys : List String
deriving DecidableEq, Repr

/-- An entity. -/
structure Entity where
  table : String
  /-- The columns, under the names of the fields. -/
  fields : NameMap String
  associations : NameMap Association
deriving DecidableEq, Repr

/-- Where entities are looked up by name. Nothing is promised about what is found. -/
structure Catalog where
  entity? : String → Option Entity

namespace Catalog

/-- The catalog of a map of entities. -/
def ofMap (entities : NameMap Entity) : Catalog := ⟨entities.get?⟩

end Catalog

end RequestSql
