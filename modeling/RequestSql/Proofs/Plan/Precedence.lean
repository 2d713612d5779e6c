import RequestSql.Proofs.Plan.Refusals
import RequestSql.Query.Fragments
import RequestSql.Request.Params

/-!
# Which failure is told

A request with several faults is refused for one of them. The stages that it goes through
stand in a fixed order: each operator is read just before it is compiled, and what is wrong
with a stage, taken by itself, depends only on the operator that it works on and on the
entity. The first stage in which something is wrong decides. Assembling the joins is no stage
here, because nothing can go wrong in it (`exists_assembleJoins`). If nothing is wrong
anywhere, the plan is the one of the operators as they have been read, each part of it is
what its own stage gives, and it is applied as it is.

Key definitions: `Stage`, `Stage.fault?`.
Key theorems: `failure?_compile`, `first_failure_wins`.
-/

namespace RequestSql

open Outcome (failure?)

/-- What is done for a request. -/
inductive Stage where
  | findEntity
  | readFilter
  | compileFilter
  | readSorting
  | compileSorting
  | readPagination
  | readSelection
  | resolvePreloads
deriving DecidableEq, Repr

namespace Stage

/-- The stages in their order. -/
def all : List Stage :=
  [findEntity, readFilter, compileFilter, readSorting, compileSorting, readPagination,
    readSelection, resolvePreloads]

/-- What is wrong in a stage. Nothing is where there is nothing for it to work on. -/
def fault? (catalog : Catalog) (entityName : String) (request : Request) :
    Stage → Option CompileError
  | findEntity => failure? (Scope.of? catalog entityName)
  | readFilter => (failure? request.filter).map .request
  | compileFilter => do
    let scope ← (Scope.of? catalog entityName).toOption
    let filter ← request.filter.toOption
    failure? (RequestSql.compileFilter scope filter)
  | readSorting => (failure? request.sorting).map .request
  | compileSorting => do
    let scope ← (Scope.of? catalog entityName).toOption
    let sorting ← request.sorting.toOption
    failure? (compileSort scope sorting)
  | readPagination => (failure? request.pagination).map .request
  | readSelection => (failure? request.selection).map .request
  | resolvePreloads => do
    let scope ← (Scope.of? catalog entityName).toOption
    let selection ← request.selection.toOption
    failure? (RequestSql.resolvePreloads scope selection)

/-- The first thing that is wrong with a request. -/
def firstFault? (catalog : Catalog) (entityName : String) (request : Request) :
    Option CompileError :=
  all.findSome? (fault? catalog entityName request)

end Stage

/-- A request fails as its first stage does that fails. -/
theorem failure?_compile (catalog : Catalog) (defaultLimit : UInt64) (entityName : String)
    (request : Request) :
    failure? (compile catalog defaultLimit entityName request) =
      Stage.firstFault? catalog entityName request := by
  obtain ⟨filter, sorting, pagination, selection⟩ := request
  simp only [Stage.firstFault?, Stage.all, List.findSome?_cons, List.findSome?_nil, Stage.fault?,
    compile]
  -- The stages are taken one after the other; one that fails is the last one on both sides.
  cases hscope : Scope.of? catalog entityName with
  | error e => rfl
  | ok scope =>
  cases filter with
  | error e => rfl
  | ok filter =>
  cases hfilter : compileFilter scope filter with
  | error e => simp [hfilter]
  | ok compiledFilter =>
  cases sorting with
  | error e => simp [hfilter]
  | ok sorting =>
  cases hsort : compileSort scope sorting with
  | error e => simp [hfilter, hsort]
  | ok compiledSort =>
  obtain ⟨joins, hjoins⟩ := exists_assembleJoins hfilter hsort
  cases pagination with
  | error e => simp [hfilter, hsort, hjoins]
  | ok page =>
  cases selection with
  | error e => simp [hfilter, hsort, hjoins]
  | ok selection =>
  cases hpreloads : resolvePreloads scope selection with
  | error e => simp [hfilter, hsort, hjoins, hpreloads]
  | ok preloads => simp [hfilter, hsort, hjoins, hpreloads, pure, Except.pure]

/-- **The first failure wins.** A request given by parameters fails exactly if one of its
stages does, and then as the first of them that does: finding the entity, reading the filter
and compiling it, reading the order and compiling it, reading the page, reading the selection
and resolving its preloads, where what cannot be read is told as its reader tells it. If no
stage fails, compiling the operators that have been read gives a plan, which is applied to the
builder, and each part of it is what its own stage gives for its own operator; the joins are
those for the associations of filter and order together. -/
theorem first_failure_wins {β : Type} [Builder β] (catalog : Catalog) (defaultLimit : UInt64)
    (entityName : String) (params : Params) (b : β) :
    (∀ e, applyRequest catalog defaultLimit entityName params.request b = .error e ↔
      Stage.firstFault? catalog entityName params.request = some e) ∧
    ((∀ stage : Stage, stage.fault? catalog entityName params.request = none) →
      ∃ (scope : Scope) (operators : Operators) (plan : Plan),
        Scope.of? catalog entityName = .ok scope ∧
        params.readFilter = .ok operators.filter ∧
        params.readSorting = .ok operators.sorting ∧
        params.readPagination = .ok operators.pagination ∧
        params.readSelection = .ok operators.selection ∧
        compile catalog defaultLimit entityName operators.request = .ok plan ∧
        applyRequest catalog defaultLimit entityName params.request b = .ok (plan.applyTo b) ∧
        compileFilter scope operators.filter = .ok plan.filter ∧
        compileSort scope operators.sorting = .ok plan.sort ∧
        assembleJoins scope (plan.filter.associations.union plan.sort.associations) =
          .ok plan.joins ∧
        plan.window = operators.pagination.map (·.window defaultLimit) ∧
        resolvePreloads scope operators.selection = .ok plan.preloads) := by
  constructor
  · intro e
    rw [← failure?_compile catalog defaultLimit, Outcome.failure?_eq_some]
    exact Outcome.map_eq_error
  · intro hnone
    have hfirst : Stage.firstFault? catalog entityName params.request = none :=
      List.findSome?_eq_none_iff.2 fun stage _ => hnone stage
    rw [← failure?_compile catalog defaultLimit] at hfirst
    obtain ⟨plan, hplan⟩ := Outcome.failure?_eq_none.1 hfirst
    obtain ⟨scope, operators, hscope, hrequest, hparts⟩ := compile_eq_ok.1 hplan
    obtain ⟨hreadFilter, hreadSorting, hreadPage, hreadSelection⟩ := Request.mk.inj hrequest
    obtain ⟨hfilter, hsort, hjoins, hpreloads, hwindow⟩ := compileIn_eq_ok.1 hparts
    refine ⟨scope, operators, plan, hscope, hreadFilter, hreadSorting, hreadPage,
      hreadSelection, hrequest ▸ hplan, ?_, hfilter, hsort, hjoins, hwindow, hpreloads⟩
    rw [applyRequest, hplan]
    rfl

/-- Of parameters whose order does not compile, whose limit is no number and whose selection
names nothing, the order is told. Parameters without a fault are applied. -/
theorem first_failure_wins_of_tickets :
    let wrong : Params :=
      ⟨some "author.name == 'Ada'", some "title, author.mail desc", some "nobody", none, none,
        some "many"⟩
    let right : Params :=
      ⟨some "not author.name == 'Ada'", some " ", some "title,assignee", none, none, some "5"⟩
    wrong.readPagination = .error (.pagination "limit" "many") ∧
      applyRequest tracker.catalog 20 "Ticket" wrong.request Fragments.empty =
        .error (.unknownField "User" "mail") ∧
      ∃ operators plan, right.readFilter = .ok operators.filter ∧
        compile tracker.catalog 20 "Ticket" (Operators.request operators) = .ok plan ∧
        applyRequest tracker.catalog 20 "Ticket" right.request Fragments.empty =
          .ok (plan.applyTo Fragments.empty) := by
  intro wrong right
  have hwrong : Stage.firstFault? tracker.catalog "Ticket" wrong.request =
      some (.unknownField "User" "mail") := by decide +kernel
  have hright : ∀ stage : Stage, stage.fault? tracker.catalog "Ticket" right.request = none := by
    intro stage
    cases stage <;> decide +kernel
  obtain ⟨scope, operators, plan, -, hfilter, -, -, -, hplan, happlied, -⟩ :=
    (first_failure_wins tracker.catalog 20 "Ticket" right Fragments.empty).2 hright
  exact ⟨by decide +kernel,
    ((first_failure_wins tracker.catalog 20 "Ticket" wrong Fragments.empty).1 _).2 hwrong,
    operators, plan, hfilter, hplan, happlied⟩

end RequestSql
