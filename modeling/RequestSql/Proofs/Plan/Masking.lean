import RequestSql.Proofs.Plan.Marks
import RequestSql.Proofs.Plan.Stages

/-!
# Masking the values of a request

Masking puts one and the same value wherever a filter, a predicate or a plan holds a value:
the empty text, or zero. What is left is the shape: two requests are equal after masking
when they differ in values only. Compiling goes by the shape: it may be done before or after
masking, also where it fails, so requests of one shape have plans of one shape, or fail for
the same reason. Masking a predicate does not change its text.

Key definitions: `Filter.masked`, `Operators.masked`, `Plan.masked`.
Key theorems: `Predicate.text_masked`, `Filter.compile_masked`, `compile_masked`.
-/

namespace RequestSql

/-! ### Filters -/

/-- The value that stands for all values of its kind. -/
def Param.masked : Param → Param
  | text _ => .text ""
  | number _ => .number ⟨0⟩

/-- The filter with its values masked. -/
def Filter.masked : Filter → Filter
  | logical combinator negated left right => .logical combinator negated left.masked right.masked
  | text path op _ negated => .text path op "" negated
  | number path op _ negated => .number path op ⟨0⟩ negated
  | null path negated => .null path negated
  | unsupported => .unsupported

/-- The predicate with its values masked. -/
def Predicate.masked : Predicate → Predicate
  | compare column op param negated => .compare column op param.masked negated
  | isNull column negated => .isNull column negated
  | logical combinator negated left right => .logical combinator negated left.masked right.masked

/-- The compiled filter with its values masked. -/
def CompiledFilter.masked (f : CompiledFilter) : CompiledFilter :=
  { f with predicate := f.predicate.map Predicate.masked }

theorem Predicate.text_masked (p : Predicate) : p.masked.text = p.text := by
  induction p with
  | compare => rfl
  | isNull => rfl
  | logical combinator negated left right ihl ihr => rw [masked, text, ihl, ihr, text]

theorem Predicate.params_masked (p : Predicate) : p.masked.params = p.params.map Param.masked := by
  induction p with
  | compare => rfl
  | isNull => rfl
  | logical combinator negated left right ihl ihr =>
    rw [masked, params, ihl, ihr, params, List.map_append]

theorem Filter.leafValues_masked (f : Filter) :
    f.masked.leafValues = f.leafValues.map Param.masked := by
  induction f with
  | logical combinator negated left right ihl ihr =>
    rw [masked, leafValues, ihl, ihr, leafValues, List.map_append]
  | text => rfl
  | number => rfl
  | null => rfl
  | unsupported => rfl

/-- A condition is masked by masking what is made of its column. -/
theorem Scope.condition_masked (scope : Scope) (path : FieldPath) (leaf : Column → Predicate) :
    scope.condition path (fun column => (leaf column).masked) =
      (scope.condition path leaf).map fun r => (r.1.masked, r.2) := by
  unfold Scope.condition
  cases scope.resolve path <;> rfl

/-- Compiling a masked filter is masking the compiled one. -/
theorem Filter.compile_masked (scope : Scope) (f : Filter) :
    f.masked.compile scope = (f.compile scope).map fun r => (r.1.masked, r.2) := by
  induction f with
  | logical combinator negated left right ihl ihr =>
    rw [masked, Filter.compile, Filter.compile, ihl, ihr]
    cases left.compile scope with
    | error e => rfl
    | ok l => cases right.compile scope <;> rfl
  | text path op value negated =>
    exact scope.condition_masked path (.compare · op.compare (.text value) negated)
  | number path op value negated =>
    exact scope.condition_masked path (.compare · op.compare (.number value) negated)
  | null path negated => exact scope.condition_masked path (.isNull · negated)
  | unsupported => rfl

theorem compileFilter_masked (scope : Scope) (filter : Option Filter) :
    compileFilter scope (filter.map Filter.masked) =
      (compileFilter scope filter).map CompiledFilter.masked := by
  cases filter with
  | none => rfl
  | some f =>
    rw [Option.map_some, compileFilter, compileFilter, Filter.compile_masked]
    cases f.compile scope <;> rfl

/-! ### Requests and plans -/

/-- The operators with the values of the filter and the bounds of the page masked. -/
def Operators.masked (operators : Operators) : Operators :=
  { operators with
    filter := operators.filter.map Filter.masked
    pagination := operators.pagination.map fun _ => ⟨0, 0⟩ }

/-- The plan with the values of the filter and the bounds of the window masked. -/
def Plan.masked (plan : Plan) : Plan :=
  { plan with
    filter := plan.filter.masked
    window := plan.window.map fun _ => ⟨0, 0⟩ }

/-- Operators of one shape have plans of one shape, or fail for the same reason. -/
theorem compileIn_masked (scope : Scope) (defaultLimit : UInt64) {a b : Operators}
    (h : a.masked = b.masked) :
    (compileIn scope defaultLimit a).map Plan.masked =
      (compileIn scope defaultLimit b).map Plan.masked := by
  obtain ⟨hfilter, hsorting, hpagination, hselection⟩ := Operators.mk.inj h
  have hwindow : (a.pagination.map (·.window defaultLimit)).map (fun _ => (⟨0, 0⟩ : Window)) =
      (b.pagination.map (·.window defaultLimit)).map fun _ => ⟨0, 0⟩ := by
    cases ha : a.pagination <;> cases hb : b.pagination <;> simp_all
  have hmasked : (compileFilter scope a.filter).map CompiledFilter.masked =
      (compileFilter scope b.filter).map CompiledFilter.masked := by
    rw [← compileFilter_masked, hfilter, compileFilter_masked]
  unfold compileIn
  rw [hsorting, hselection]
  rcases Outcome.map_eq_map.1 hmasked with ⟨e, ha, hb⟩ | ⟨f, g, ha, hb, hfg⟩
  · rw [ha, hb]
    rfl
  · have hassociations : f.associations = g.associations := by
      show f.masked.associations = g.masked.associations
      rw [hfg]
    rw [ha, hb]
    simp only [bind, Except.bind]
    cases compileSort scope b.sorting with
    | error e => rfl
    | ok sort =>
      simp only [hassociations]
      cases assembleJoins scope (g.associations.union sort.associations) with
      | error e => rfl
      | ok joins =>
        cases resolvePreloads scope b.selection with
        | error e => rfl
        | ok preloads =>
          show Except.ok (Plan.masked ⟨f, sort, joins, _, preloads⟩) =
            Except.ok (Plan.masked ⟨g, sort, joins, _, preloads⟩)
          rw [Plan.masked, Plan.masked, hfg, hwindow]

/-- Requests of one shape have plans of one shape, or fail for the same reason. -/
theorem compile_masked (catalog : Catalog) (defaultLimit : UInt64) (entityName : String)
    {a b : Operators} (h : a.masked = b.masked) :
    (compile catalog defaultLimit entityName a.request).map Plan.masked =
      (compile catalog defaultLimit entityName b.request).map Plan.masked := by
  rw [compile_request, compile_request]
  cases Scope.of? catalog entityName with
  | error e => rfl
  | ok scope => exact compileIn_masked scope defaultLimit h

end RequestSql
