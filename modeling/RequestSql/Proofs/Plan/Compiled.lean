import RequestSql.Plan.Condition

/-!
# Filters that compile

A filter compiles exactly when every leaf of it names a field that is there. What comes out
is given by rules, one for each kind of node, so that facts about compiled filters are
proved by induction on the rules.

Key definition: `Filter.Compiles`.
Key theorems: `Filter.compile_eq_ok`, `compileFilter_some_eq_ok`.
-/

namespace RequestSql

/-- A filter compiles to a predicate, its paths crossing a set of associations. -/
inductive Filter.Compiles (scope : Scope) : Filter → Predicate → NameSet → Prop where
  | logical {combinator : Combinator} {negated : Bool} {left right : Filter} {l r : Predicate}
      {ls rs : NameSet} :
      Compiles scope left l ls → Compiles scope right r rs →
        Compiles scope (.logical combinator negated left right)
          (.logical combinator negated l r) (ls.union rs)
  | text {path : FieldPath} {op : TextOp} {value : String} {negated : Bool}
      {resolved : Resolved} :
      scope.resolve path = .ok resolved →
        Compiles scope (.text path op value negated)
          (.compare resolved.column op.compare (.text value) negated)
          (.ofList resolved.association.toList)
  | number {path : FieldPath} {op : NumberOp} {value : Binary64} {negated : Bool}
      {resolved : Resolved} :
      scope.resolve path = .ok resolved →
        Compiles scope (.number path op value negated)
          (.compare resolved.column op.compare (.number value) negated)
          (.ofList resolved.association.toList)
  | null {path : FieldPath} {negated : Bool} {resolved : Resolved} :
      scope.resolve path = .ok resolved →
        Compiles scope (.null path negated) (.isNull resolved.column negated)
          (.ofList resolved.association.toList)

/-- A condition is made of the column that its path leads to. -/
theorem Scope.condition_eq_ok {scope : Scope} {path : FieldPath} {leaf : Column → Predicate}
    {predicate : Predicate} {associations : NameSet} :
    scope.condition path leaf = .ok (predicate, associations) ↔
      ∃ resolved, scope.resolve path = .ok resolved ∧ predicate = leaf resolved.column ∧
        associations = .ofList resolved.association.toList := by
  unfold Scope.condition
  cases scope.resolve path with
  | error e => simp
  | ok resolved => simp [eq_comm]

theorem Scope.condition_of_resolve {scope : Scope} {path : FieldPath} {resolved : Resolved}
    (h : scope.resolve path = .ok resolved) (leaf : Column → Predicate) :
    scope.condition path leaf =
      .ok (leaf resolved.column, .ofList resolved.association.toList) :=
  Scope.condition_eq_ok.2 ⟨resolved, h, rfl, rfl⟩

namespace Filter

theorem compiles_of_compile {scope : Scope} {f : Filter} {predicate : Predicate}
    {associations : NameSet} (h : f.compile scope = .ok (predicate, associations)) :
    Compiles scope f predicate associations := by
  induction f generalizing predicate associations with
  | logical combinator negated left right ihl ihr =>
    rw [compile] at h
    cases hl : left.compile scope with
    | error e => rw [hl] at h; cases h
    | ok l =>
      cases hr : right.compile scope with
      | error e => rw [hl, hr] at h; cases h
      | ok r =>
        rw [hl, hr] at h
        obtain ⟨rfl, rfl⟩ := Prod.mk.inj (Except.ok.inj h)
        exact .logical (ihl hl) (ihr hr)
  | text path op value negated =>
    obtain ⟨resolved, hresolved, rfl, rfl⟩ := Scope.condition_eq_ok.1 h
    exact .text hresolved
  | number path op value negated =>
    obtain ⟨resolved, hresolved, rfl, rfl⟩ := Scope.condition_eq_ok.1 h
    exact .number hresolved
  | null path negated =>
    obtain ⟨resolved, hresolved, rfl, rfl⟩ := Scope.condition_eq_ok.1 h
    exact .null hresolved
  | unsupported => cases h

/-- Compiling finds what the rules give. -/
theorem compile_eq_ok {scope : Scope} {f : Filter} {predicate : Predicate}
    {associations : NameSet} :
    f.compile scope = .ok (predicate, associations) ↔
      Compiles scope f predicate associations := by
  refine ⟨compiles_of_compile, fun h => ?_⟩
  induction h with
  | logical _ _ ihl ihr => rw [compile, ihl, ihr]
  | text hresolved => exact Scope.condition_of_resolve hresolved _
  | number hresolved => exact Scope.condition_of_resolve hresolved _
  | null hresolved => exact Scope.condition_of_resolve hresolved _

end Filter

/-- A filter that is there compiles to its predicate. -/
theorem compileFilter_some_eq_ok {scope : Scope} {f : Filter} {compiled : CompiledFilter} :
    compileFilter scope (some f) = .ok compiled ↔
      ∃ predicate associations, f.Compiles scope predicate associations ∧
        compiled = ⟨some predicate, associations⟩ := by
  simp only [compileFilter, ← Filter.compile_eq_ok]
  cases f.compile scope with
  | error e => simp
  | ok r =>
    constructor
    · intro h
      exact ⟨r.1, r.2, rfl, (Except.ok.inj h).symm⟩
    · rintro ⟨_, _, hr, rfl⟩
      rw [Except.ok.inj hr]

end RequestSql
