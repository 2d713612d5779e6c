import RequestSql.Query.Builder

/-!
# Building by steps

A query can also be built one step at a time, in any order. A step names fields and
associations of the scope, so it may fail; then nothing is built.

Key definitions: `Step`, `Step.apply`.
-/

namespace RequestSql

/-- One step of building a query. -/
inductive Step where
  /-- A filter in the filter language. -/
  | filter (input : String)
  /-- A predicate as it stands, and the values of its marks. -/
  | predicate (text : String) (params : List Param)
  | order (tag : String) (descending : Bool)
  /-- The joins for associations, each once. -/
  | joins (associations : List String)
  | window (bounds : Window)
  | preload (association : String)
deriving DecidableEq, Repr

namespace Step

variable {β : Type} [Builder β]

/-- A builder after a step. -/
def apply (scope : Scope) (step : Step) (b : β) : Except CompileError β :=
  match step with
  | filter input =>
    (compileFilterText scope.catalog scope.entityName input).map (·.applyTo b)
  | predicate text params => .ok (Builder.filter b text params)
  | order tag descending =>
    (scope.resolveDotted tag).map fun resolved =>
      Builder.orderBy b ⟨resolved.column, descending⟩
  | joins associations =>
    (assembleJoins scope (.ofList associations)).map (·.foldl Builder.join b)
  | .window bounds => .ok (Builder.paginate b bounds)
  | preload association => .ok (Builder.preload b association)

end Step

end RequestSql
