import RequestSql.Schema.Entity

/-!
# Well-formed schemas

A schema is a map of entities in which every table, column and key is an identifier,
which may stand in SQL text as it is, and every association leads to an entity of the
schema by as many source keys as target keys, at least one, under a name that is no
field. `schemaFault?` finds the first fault: entities by name; in one, the table, the
columns by field, then the associations by name.

Key definitions: `isIdentifier`, `SchemaError`, `schemaFault?`, `Schema`,
`Schema.ofEntities`.
-/

namespace RequestSql

/-- What is wrong with a map of entities. -/
inductive SchemaError where
  | invalidIdentifier (name : String)
  | unknownTarget (entity association target : String)
  | keyMismatch (entity association : String)
  | ambiguousName (entity name : String)
deriving DecidableEq, Repr

/-- The text of the error. -/
def SchemaError.message : SchemaError → String
  | invalidIdentifier name => "`" ++ name ++ "` is not a valid SQL identifier"
  | unknownTarget entity association target =>
    "association `" ++ association ++ "` on `" ++ entity ++ "` targets unknown entity `" ++
      target ++ "`"
  | keyMismatch entity association =>
    "association `" ++ association ++ "` on `" ++ entity ++
      "` must declare the same non-zero number of source and target keys"
  | ambiguousName entity name =>
    "`" ++ name ++ "` on `" ++ entity ++ "` is declared both as a field and as an association"

/-- Whether a character may begin an identifier. -/
def isIdentifierStart (c : Char) : Bool := c.isAlpha || c == '_'

/-- Whether a character may continue an identifier. -/
def isIdentifierPart (c : Char) : Bool := c.isAlphanum || c == '_'

/-- Whether a text is an identifier: ASCII letters, digits and underscores, and no digit
first. -/
def isIdentifier (text : String) : Bool :=
  match text.toList with
  | [] => false
  | c :: cs => isIdentifierStart c && cs.all isIdentifierPart

/-- The fault of a name that is no identifier. -/
def identifierFault? (name : String) : Option SchemaError :=
  if isIdentifier name then none else some (.invalidIdentifier name)

/-- The first fault of the association under a name. -/
def associationFault? (entities : NameMap Entity) (entityName : String) (entity : Entity)
    (name : String) (association : Association) : Option SchemaError :=
  if entity.fields.contains name then some (.ambiguousName entityName name)
  else if !entities.contains association.entity then
    some (.unknownTarget entityName name association.entity)
  else if association.sourceKeys.isEmpty ||
      association.sourceKeys.length != association.targetKeys.length then
    some (.keyMismatch entityName name)
  else (association.sourceKeys ++ association.targetKeys).findSome? identifierFault?

/-- The first fault of the entity under a name. -/
def entityFault? (entities : NameMap Entity) (name : String) (entity : Entity) :
    Option SchemaError :=
  (identifierFault? entity.table).or <|
    (entity.fields.values.findSome? identifierFault?).or <|
      entity.associations.toList.findSome? fun (associationName, association) =>
        associationFault? entities name entity associationName association

/-- The first fault of a map of entities. -/
def schemaFault? (entities : NameMap Entity) : Option SchemaError :=
  entities.toList.findSome? fun (name, entity) => entityFault? entities name entity

/-- A map of entities without a fault. -/
structure Schema where
  entities : NameMap Entity
  faultless : schemaFault? entities = none
deriving DecidableEq

namespace Schema

/-- The schema of a map of entities, or its first fault. -/
def ofEntities (entities : NameMap Entity) : Except SchemaError Schema :=
  match h : schemaFault? entities with
  | none => .ok ⟨entities, h⟩
  | some e => .error e

/-- Where the entities of a schema are looked up. -/
def catalog (schema : Schema) : Catalog := .ofMap schema.entities

/-- The names of the entities, ascending. -/
def entityNames (schema : Schema) : List String := schema.entities.names

end Schema

end RequestSql
