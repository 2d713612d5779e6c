import RequestSql.Plan.Compile
import RequestSql.Proofs.Outcome

/-!
# The stages of compiling

Once the scope of the entity is found, the operators of a request are compiled one after the
other, and there is a plan exactly when every one of them compiles: each part of the plan is
what its own stage gives.

Key definition: `compileIn`.
Key theorems: `compile_request`, `compileIn_eq_ok`.
-/

namespace RequestSql

/-- The plan of operators in the scope of an entity. -/
def compileIn (scope : Scope) (defaultLimit : UInt64) (operators : Operators) :
    Except CompileError Plan := do
  let filter ← compileFilter scope operators.filter
  let sort ← compileSort scope operators.sorting
  let joins ← assembleJoins scope (filter.associations.union sort.associations)
  let preloads ← resolvePreloads scope operators.selection
  return ⟨filter, sort, joins, operators.pagination.map (·.window defaultLimit), preloads⟩

/-- Operators that can be read are compiled in the scope of the entity. -/
theorem compile_request (catalog : Catalog) (defaultLimit : UInt64) (entityName : String)
    (operators : Operators) :
    compile catalog defaultLimit entityName operators.request =
      Scope.of? catalog entityName >>= (compileIn · defaultLimit operators) :=
  rfl

theorem compile_request_eq {catalog : Catalog} {entityName : String} {scope : Scope}
    (h : Scope.of? catalog entityName = .ok scope) (defaultLimit : UInt64)
    (operators : Operators) :
    compile catalog defaultLimit entityName operators.request =
      compileIn scope defaultLimit operators := by
  rw [compile_request, h]
  rfl

/-- There is a plan if every stage succeeds, and then it is made of their results. -/
theorem compileIn_eq_ok {scope : Scope} {defaultLimit : UInt64} {operators : Operators}
    {plan : Plan} :
    compileIn scope defaultLimit operators = .ok plan ↔
      compileFilter scope operators.filter = .ok plan.filter ∧
      compileSort scope operators.sorting = .ok plan.sort ∧
      assembleJoins scope (plan.filter.associations.union plan.sort.associations) =
        .ok plan.joins ∧
      resolvePreloads scope operators.selection = .ok plan.preloads ∧
      plan.window = operators.pagination.map (·.window defaultLimit) := by
  constructor
  · intro h
    obtain ⟨filter, hfilter, h⟩ := Outcome.bind_eq_ok.1 h
    obtain ⟨sort, hsort, h⟩ := Outcome.bind_eq_ok.1 h
    obtain ⟨joins, hjoins, h⟩ := Outcome.bind_eq_ok.1 h
    obtain ⟨preloads, hpreloads, h⟩ := Outcome.bind_eq_ok.1 h
    obtain rfl := Except.ok.inj h
    exact ⟨hfilter, hsort, hjoins, hpreloads, rfl⟩
  · rintro ⟨hfilter, hsort, hjoins, hpreloads, hwindow⟩
    obtain ⟨filter, sort, joins, window, preloads⟩ := plan
    refine Outcome.bind_eq_ok.2 ⟨filter, hfilter, Outcome.bind_eq_ok.2 ⟨sort, hsort, ?_⟩⟩
    refine Outcome.bind_eq_ok.2 ⟨joins, hjoins, Outcome.bind_eq_ok.2 ⟨preloads, hpreloads, ?_⟩⟩
    rw [← show window = _ from hwindow]
    rfl

end RequestSql
