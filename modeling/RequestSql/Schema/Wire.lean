import RequestSql.Schema.WellFormed
import RequestSql.Json.Reader

/-!
# Schemas as JSON

The JSON form of a schema: an object of entities, each with its table, its fields and
its associations. Fields and associations are empty where they are left out. A schema is
read from a JSON value, or from JSON text by readers that find the first fault in it; in
a text, a schema that is not well-formed is refused once it has been read.

Key definitions: `Schema.toJson`, `entities?`, `Schema.reader`.
-/

namespace RequestSql

open Json (Reader)

/-- A map as an object. -/
def NameMap.toJson {α : Type} (f : α → Json) (m : NameMap α) : Json :=
  .object (m.toList.map fun entry => (entry.1, f entry.2))

/-- The map that an object is. -/
def NameMap.ofJson? {α : Type} (value? : Json → Option α) : Json → Option (NameMap α)
  | .object members =>
    (members.mapM fun (m : String × Json) => (value? m.2).map (m.1, ·)).map NameMap.ofList
  | _ => none

/-- Reads an object as a map. -/
def NameMap.reader {α : Type} (value : Reader α) : Reader (NameMap α) :=
  Reader.foldObject
    (fun m name => Reader.memberValue (Reader.map (m.insert name ·) value)) NameMap.empty

namespace Association

/-- The fields of an association, in their order. -/
def fieldNames : List String := ["entity", "source_keys", "target_keys"]

/-- The JSON form of an association. -/
def toJson (a : Association) : Json :=
  .object [("entity", .text a.entity), ("source_keys", .texts a.sourceKeys),
    ("target_keys", .texts a.targetKeys)]

/-- The association that a JSON value is. -/
def ofJson? (json : Json) : Option Association := do
  let fields ← json.record? fieldNames
  let entity ← Json.required fields "entity" Json.text?
  let sourceKeys ← Json.required fields "source_keys" (Json.array? Json.text?)
  let targetKeys ← Json.required fields "target_keys" (Json.array? Json.text?)
  return ⟨entity, sourceKeys, targetKeys⟩

/-- The fields of an association that have been read. -/
structure Draft where
  entity : Option String
  sourceKeys : Option (List String)
  targetKeys : Option (List String)

/-- How the fields of an association are read. -/
def draftFields : List (Reader.Field Draft) :=
  [Reader.field "entity" (·.entity) (fun d v => { d with entity := some v }) Reader.text,
    Reader.field "source_keys" (·.sourceKeys) (fun d v => { d with sourceKeys := some v })
      (Reader.list Reader.text),
    Reader.field "target_keys" (·.targetKeys) (fun d v => { d with targetKeys := some v })
      (Reader.list Reader.text)]

/-- The association that a draft is, if nothing is left out. -/
def Draft.finish (d : Draft) : Except String Association := do
  return ⟨← Reader.needed "entity" d.entity, ← Reader.needed "source_keys" d.sourceKeys,
    ← Reader.needed "target_keys" d.targetKeys⟩

/-- Reads an association. -/
def reader : Reader Association :=
  Reader.record "AssociationSchema" draftFields ⟨none, none, none⟩ Draft.finish

end Association

namespace Entity

/-- The fields of an entity, in their order. -/
def fieldNames : List String := ["table", "fields", "associations"]

/-- The JSON form of an entity. -/
def toJson (e : Entity) : Json :=
  .object [("table", .text e.table), ("fields", e.fields.toJson .text),
    ("associations", e.associations.toJson Association.toJson)]

/-- The entity that a JSON value is. -/
def ofJson? (json : Json) : Option Entity := do
  let fields ← json.record? fieldNames
  let table ← Json.required fields "table" Json.text?
  let columns ← Json.defaulted fields "fields" .empty (NameMap.ofJson? Json.text?)
  let associations ←
    Json.defaulted fields "associations" .empty (NameMap.ofJson? Association.ofJson?)
  return ⟨table, columns, associations⟩

/-- The fields of an entity that have been read. -/
structure Draft where
  table : Option String
  fields : Option (NameMap String)
  associations : Option (NameMap Association)

/-- How the fields of an entity are read. -/
def draftFields : List (Reader.Field Draft) :=
  [Reader.field "table" (·.table) (fun d v => { d with table := some v }) Reader.text,
    Reader.field "fields" (·.fields) (fun d v => { d with fields := some v })
      (NameMap.reader Reader.text),
    Reader.field "associations" (·.associations) (fun d v => { d with associations := some v })
      (NameMap.reader Association.reader)]

/-- The entity that a draft is, if its table is not left out. -/
def Draft.finish (d : Draft) : Except String Entity := do
  return ⟨← Reader.needed "table" d.table, d.fields.getD .empty, d.associations.getD .empty⟩

/-- Reads an entity. -/
def reader : Reader Entity :=
  Reader.record "EntitySchema" draftFields ⟨none, none, none⟩ Draft.finish

end Entity

/-- The map of entities that a JSON value is, well-formed or not. -/
def entities? : Json → Option (NameMap Entity) := NameMap.ofJson? Entity.ofJson?

namespace Schema

/-- The JSON form of a schema. -/
def toJson (schema : Schema) : Json := schema.entities.toJson Entity.toJson

/-- Reads a schema, which has to be well-formed. -/
def reader : Reader Schema := fun cs =>
  Reader.finishWith
    (fun entities left =>
      (ofEntities entities).mapError fun e => .after (.refused e.message) left)
    (NameMap.reader Entity.reader cs)

end Schema

end RequestSql
