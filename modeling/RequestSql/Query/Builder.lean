import RequestSql.Plan.Compile

/-!
# Builders

A builder is something that a plan can be applied to, step by step: predicates, order
terms, joins, a window and preloads. The instances say what a builder is made of; a plan
makes the same steps on all of them.

Key definitions: `Builder`, `Plan.applyTo`, `applyRequest`.
-/

namespace RequestSql

/-- The steps that build a query. -/
class Builder (β : Type) where
  /-- Adds a predicate: its text and the values of its marks. -/
  filter : β → String → List Param → β
  orderBy : β → OrderTerm → β
  join : β → Join → β
  paginate : β → Window → β
  preload : β → String → β

variable {β : Type} [Builder β]

/-- Adds a compiled filter, if there is one. -/
def CompiledFilter.applyTo (f : CompiledFilter) (b : β) : β :=
  match f.predicate with
  | none => b
  | some predicate => Builder.filter b predicate.text predicate.params

/-- Sets a window, if there is one. -/
def paginateWith (b : β) : Option Window → β
  | none => b
  | some window => Builder.paginate b window

/-- Applies a plan. -/
def Plan.applyTo (plan : Plan) (b : β) : β :=
  let filtered := plan.filter.applyTo b
  let ordered := plan.sort.terms.foldl Builder.orderBy filtered
  let joined := plan.joins.foldl Builder.join ordered
  plan.preloads.foldl Builder.preload (paginateWith joined plan.window)

/-- Compiles a request for an entity and applies its plan. -/
def applyRequest (catalog : Catalog) (defaultLimit : UInt64) (entityName : String)
    (request : Request) (b : β) : Except CompileError β :=
  (compile catalog defaultLimit entityName request).map (·.applyTo b)

end RequestSql
