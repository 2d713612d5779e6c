import RequestSql.Names.Set
import RequestSql.Request.Operators
import RequestSql.Scope

/-!
# Compiling orders

Every criterion of an order becomes one term, in the same place: the column that its
path leads to, and its direction. The first criterion whose path leads nowhere fails the
whole.

Key definitions: `OrderTerm`, `Scope.orderTerm`, `CompiledSort`, `compileSort`.
-/

namespace RequestSql

/-- A term of `ORDER BY`. -/
structure OrderTerm where
  column : Column
  descending : Bool
deriving DecidableEq, Repr

/-- The term as text. -/
def OrderTerm.text (term : OrderTerm) : String :=
  term.column.text ++ if term.descending then " desc" else ""

/-- The term of a criterion, and the association that its path crosses. -/
def Scope.orderTerm (scope : Scope) (criterion : SortCriterion) :
    Except CompileError (OrderTerm × Option String) :=
  (scope.resolveDotted criterion.tag).map fun resolved =>
    (⟨resolved.column, criterion.descending⟩, resolved.association)

/-- An order, compiled. -/
structure CompiledSort where
  terms : List OrderTerm
  /-- The associations that its paths cross. -/
  associations : NameSet
deriving DecidableEq, Repr

namespace CompiledSort

/-- No order. -/
def absent : CompiledSort := ⟨[], .empty⟩

/-- The order of terms with the associations that their paths cross. -/
def ofTerms (terms : List (OrderTerm × Option String)) : CompiledSort :=
  ⟨terms.map (·.1), .ofList (terms.filterMap (·.2))⟩

end CompiledSort

/-- Compiles an order that may be absent. -/
def compileSort (scope : Scope) : Option (List SortCriterion) → Except CompileError CompiledSort
  | none => .ok .absent
  | some criteria => (criteria.mapM scope.orderTerm).map .ofTerms

end RequestSql
