import RequestSql.Error
import RequestSql.Schema.Entity

/-!
# Resolving field paths

A scope is the entity that a request lists, in the catalog that its associations lead
into. A path is resolved from there: the segments before the last one are associations
to follow, the last one is a field of the entity reached. Only one association may be
crossed, but every one on the way is looked up first, so a misspelled one is reported as
such.

Key definitions: `Scope`, `Column`, `Resolved`, `Scope.resolve`,
`Scope.resolveSelection`.
-/

namespace RequestSql

/-- A column of a table. -/
structure Column where
  table : String
  name : String
deriving DecidableEq, Repr

/-- The column in SQL text. -/
def Column.text (column : Column) : String := column.table ++ "." ++ column.name

/-- What a path leads to. -/
structure Resolved where
  column : Column
  /-- The association that was crossed. -/
  association : Option String
deriving DecidableEq, Repr

/-- An entity in a catalog, from which paths are resolved. -/
structure Scope where
  catalog : Catalog
  entityName : String
  entity : Entity

namespace Scope

/-- The scope of an entity of the catalog. -/
def of? (catalog : Catalog) (entityName : String) : Except CompileError Scope :=
  match catalog.entity? entityName with
  | some entity => .ok ⟨catalog, entityName, entity⟩
  | none => .error (.unknownEntity entityName)

/-- The entity reached from an entity by following associations. -/
def follow (catalog : Catalog) (name : String) (entity : Entity) :
    List String → Except CompileError (String × Entity)
  | [] => .ok (name, entity)
  | hop :: hops =>
    match entity.associations.get? hop with
    | none => .error (.unknownField name hop)
    | some association =>
      match catalog.entity? association.entity with
      | none => .error (.unknownEntity association.entity)
      | some next => follow catalog association.entity next hops

/-- The column of a field of an entity. -/
def columnOf (name : String) (entity : Entity) (field : String) : Except CompileError Column :=
  match entity.fields.get? field with
  | some column => .ok ⟨entity.table, column⟩
  | none => .error (.unknownField name field)

/-- What a path leads to. -/
def resolve (scope : Scope) (path : FieldPath) : Except CompileError Resolved :=
  match path.segments.getLast? with
  | none => .error (.unknownField scope.entityName "")
  | some field =>
    let hops := path.segments.dropLast
    match follow scope.catalog scope.entityName scope.entity hops with
    | .error e => .error e
    | .ok (name, entity) =>
      if 1 < hops.length then .error (.unsupportedPath path.toDotted)
      else
        match columnOf name entity field with
        | .error e => .error e
        | .ok column => .ok ⟨column, hops.head?⟩

/-- What a path written with dots leads to. -/
def resolveDotted (scope : Scope) (dotted : String) : Except CompileError Resolved :=
  scope.resolve (.ofDotted dotted)

/-- The association that a path of a field selection needs: the one that a single segment
names, or the one that the path crosses. -/
def resolveSelection (scope : Scope) (dotted : String) : Except CompileError (Option String) :=
  if dotted.toList.contains '.' then
    match scope.resolveDotted dotted with
    | .error e => .error e
    | .ok resolved => .ok resolved.association
  else if scope.entity.associations.contains dotted then .ok (some dotted)
  else if scope.entity.fields.contains dotted then .ok none
  else .error (.unknownField scope.entityName dotted)

end Scope

end RequestSql
