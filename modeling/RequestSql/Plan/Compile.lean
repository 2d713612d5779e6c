import RequestSql.Plan.Condition
import RequestSql.Plan.Join
import RequestSql.Plan.Order
import RequestSql.Plan.Preload
import RequestSql.Plan.Window

/-!
# Plans

A plan is all that a request says about a statement, in terms of tables and columns. The
operators of a request are taken one after the other: filter, order, page, selection;
each is read and then compiled, and the first failure is the failure of the whole. The
joins are those that filter and order need together.

Key definitions: `Plan`, `compile`.
-/

namespace RequestSql

/-- A compiled request. -/
structure Plan where
  filter : CompiledFilter
  sort : CompiledSort
  joins : List Join
  window : Option Window
  /-- The associations to load along. -/
  preloads : List String
deriving DecidableEq, Repr

/-- The plan of a request for an entity. -/
def compile (catalog : Catalog) (defaultLimit : UInt64) (entityName : String)
    (request : Request) : Except CompileError Plan := do
  let scope ← Scope.of? catalog entityName
  let filter ← compileFilter scope (← request.filter.mapError .request)
  let sort ← compileSort scope (← request.sorting.mapError .request)
  let joins ← assembleJoins scope (filter.associations.union sort.associations)
  let page ← request.pagination.mapError .request
  let preloads ← resolvePreloads scope (← request.selection.mapError .request)
  return ⟨filter, sort, joins, page.map (·.window defaultLimit), preloads⟩

end RequestSql
