import RequestSql.Names.Set
import RequestSql.Scope

/-!
# Joins

Every association that a filter or an order crosses becomes one join of the other
entity's table, on all pairs of keys in the order of their declaration. Joins come by
ascending name of their associations.

Key definitions: `Join`, `Join.text`, `Scope.join`, `assembleJoins`.
-/

namespace RequestSql

/-- A join of the table of an associated entity. -/
structure Join where
  association : String
  table : String
  /-- Columns of the joined table and of the own table that have to be equal. -/
  keyPairs : List (Column × Column)
deriving DecidableEq, Repr

namespace Join

/-- The condition of the join as text. -/
def condition (join : Join) : String :=
  " AND ".intercalate (join.keyPairs.map fun pair => pair.1.text ++ " = " ++ pair.2.text)

/-- The join as text. -/
def text (join : Join) : String := "LEFT JOIN " ++ join.table ++ " ON " ++ join.condition

end Join

/-- The join for an association of the entity. -/
def Scope.join (scope : Scope) (name : String) : Except CompileError Join :=
  let unknown : CompileError := .unknownAssociation scope.entityName name
  match scope.entity.associations.get? name with
  | none => .error unknown
  | some association =>
    match scope.catalog.entity? association.entity with
    | none => .error unknown
    | some target =>
      .ok ⟨name, target.table,
        List.zipWith (fun source own => (⟨target.table, source⟩, ⟨scope.entity.table, own⟩))
          association.sourceKeys association.targetKeys⟩

/-- The joins for a set of associations. -/
def assembleJoins (scope : Scope) (associations : NameSet) : Except CompileError (List Join) :=
  associations.toList.mapM scope.join

end RequestSql
