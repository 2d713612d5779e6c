import RequestSql.Proofs.Plan.Joined

/-!
# Filters leaf by leaf

A filter is a tree of combinators with conditions at its leaves, and compiling it does one thing
at each leaf: it looks up the path. So the leaves can be judged one after the other, from left
to right, without regard to the tree above them. If all of them pass, the predicate is the same
tree with the columns that were found in place of the paths, and the associations are those that
were crossed at some leaf. If one does not pass, the first such leaf is the one that is told,
however deep it is; what comes behind it is not looked at any more.

The tree above the leaves is kept as a `Skeleton`, which filters and predicates have in common.
A skeleton and a list of leaves are one predicate at most, so nothing else can come out.

Key definitions: `Skeleton`, `Leaf`, `Filter.leaves`, `Predicate.leaves`, `Leaf.judge`,
`Filter.Filled`.
Key theorems: `Predicate.eq_of_skeleton_of_leaves`, `Filter.failure?_compile_leaves`,
`Filter.Compiles.exists_filled`, `compiles_as_its_leaves`.
-/

namespace RequestSql

open Outcome (failure?)

/-! ### Trees and leaves -/

/-- What is above the leaves of a filter or a predicate. -/
inductive Skeleton where
  | leaf
  | node (combinator : Combinator) (negated : Bool) (left right : Skeleton)
deriving DecidableEq, Repr

/-- How many leaves there is room for. -/
def Skeleton.size : Skeleton → Nat
  | leaf => 1
  | node _ _ left right => left.size + right.size

/-- What a condition asks of a field. -/
inductive Test where
  | compare (op : CompareOp) (param : Param)
  /-- The field has no value. -/
  | isNull
deriving DecidableEq, Repr

/-- A condition on a field, which is named in some way: by a path, or as a column. -/
structure Leaf (α : Type) where
  field : α
  test : Test
  negated : Bool
deriving DecidableEq, Repr

namespace Filter

/-- The tree above the leaves. -/
def skeleton : Filter → Skeleton
  | logical combinator negated left right =>
    .node combinator negated left.skeleton right.skeleton
  | text .. => .leaf
  | number .. => .leaf
  | null .. => .leaf
  | unsupported => .leaf

/-- The leaves, from left to right; a node of an unknown kind is one without a condition. -/
def leaves : Filter → List (Option (Leaf FieldPath))
  | logical _ _ left right => left.leaves ++ right.leaves
  | text path op value negated => [some ⟨path, .compare op.compare (.text value), negated⟩]
  | number path op value negated => [some ⟨path, .compare op.compare (.number value), negated⟩]
  | null path negated => [some ⟨path, .isNull, negated⟩]
  | unsupported => [none]

end Filter

namespace Predicate

/-- The tree above the leaves. -/
def skeleton : Predicate → Skeleton
  | logical combinator negated left right =>
    .node combinator negated left.skeleton right.skeleton
  | compare .. => .leaf
  | isNull .. => .leaf

/-- The leaves, from left to right. -/
def leaves : Predicate → List (Leaf Column)
  | logical _ _ left right => left.leaves ++ right.leaves
  | compare column op param negated => [⟨column, .compare op param, negated⟩]
  | isNull column negated => [⟨column, .isNull, negated⟩]

theorem length_leaves (p : Predicate) : p.leaves.length = p.skeleton.size := by
  induction p with
  | logical _ _ left right ihl ihr => simp [leaves, skeleton, Skeleton.size, ihl, ihr]
  | compare => rfl
  | isNull => rfl

/-- **A predicate is its skeleton and its leaves.** -/
theorem eq_of_skeleton_of_leaves {p q : Predicate} (hskeleton : p.skeleton = q.skeleton)
    (hleaves : p.leaves = q.leaves) : p = q := by
  induction p generalizing q with
  | logical combinator negated left right ihl ihr =>
    cases q with
    | logical combinator' negated' left' right' =>
      obtain ⟨rfl, rfl, hl, hr⟩ := Skeleton.node.inj hskeleton
      have hlength : left.leaves.length = left'.leaves.length := by
        rw [length_leaves, length_leaves, hl]
      obtain ⟨hleft, hright⟩ := List.append_inj hleaves hlength
      rw [ihl hl hleft, ihr hr hright]
    | compare => cases hskeleton
    | isNull => cases hskeleton
  | compare column op param negated =>
    cases q with
    | logical => cases hskeleton
    | compare => simp_all [leaves]
    | isNull => simp [leaves] at hleaves
  | isNull column negated =>
    cases q with
    | logical => cases hskeleton
    | compare => simp [leaves] at hleaves
    | isNull => simp_all [leaves]

end Predicate

/-! ### Judging leaves -/

/-- What becomes of a leaf by itself: the condition on the column that its path leads to, and
the association on the way. -/
def Leaf.judge (scope : Scope) :
    Option (Leaf FieldPath) → Except CompileError (Leaf Column × Option String)
  | none => .error .unsupportedNode
  | some leaf => (scope.resolve leaf.field).map fun resolved =>
      (⟨resolved.column, leaf.test, leaf.negated⟩, resolved.association)

section Judge

variable {scope : Scope}

theorem Leaf.judge_of_resolve {leaf : Leaf FieldPath} {resolved : Resolved}
    (h : scope.resolve leaf.field = .ok resolved) :
    judge scope (some leaf) =
      .ok (⟨resolved.column, leaf.test, leaf.negated⟩, resolved.association) := by
  rw [judge, h]
  rfl

/-- A condition fails as its leaf does. -/
theorem Scope.failure?_condition (leaf : Leaf FieldPath) (make : Column → Predicate) :
    failure? (scope.condition leaf.field make) = failure? (Leaf.judge scope (some leaf)) := by
  cases h : scope.resolve leaf.field <;> simp only [Scope.condition, Leaf.judge, h] <;> rfl

namespace Filter

/-- **Compiling fails as judging the leaves does**, one after the other from the left. -/
theorem failure?_compile_leaves (f : Filter) :
    failure? (f.compile scope) = failure? (f.leaves.mapM (Leaf.judge scope)) := by
  induction f with
  | logical combinator negated left right ihl ihr =>
    rw [leaves, Outcome.failure?_mapM_append, ← ihl, ← ihr, compile]
    cases left.compile scope with
    | error e => rfl
    | ok l => cases right.compile scope <;> rfl
  | text path op value negated =>
    rw [leaves, Outcome.failure?_mapM_singleton]
    exact Scope.failure?_condition ⟨path, .compare op.compare (.text value), negated⟩ _
  | number path op value negated =>
    rw [leaves, Outcome.failure?_mapM_singleton]
    exact Scope.failure?_condition ⟨path, .compare op.compare (.number value), negated⟩ _
  | null path negated =>
    rw [leaves, Outcome.failure?_mapM_singleton]
    exact Scope.failure?_condition ⟨path, .isNull, negated⟩ _
  | unsupported => rfl

/-- What a filter becomes when its leaves have become these: the same tree above the new
leaves, and the associations that were met at them. -/
structure Filled (f : Filter) (judged : List (Leaf Column × Option String))
    (predicate : Predicate) (associations : NameSet) : Prop where
  skeleton : predicate.skeleton = f.skeleton
  leaves : predicate.leaves = judged.map (·.1)
  association : ∀ name, name ∈ associations ↔ some name ∈ judged.map (·.2)

/-- A filter becomes one predicate and one set of associations. -/
theorem Filled.unique {f : Filter} {judged : List (Leaf Column × Option String)}
    {p q : Predicate} {s t : NameSet} (hp : f.Filled judged p s) (hq : f.Filled judged q t) :
    p = q ∧ s = t := by
  constructor
  · exact Predicate.eq_of_skeleton_of_leaves (hp.skeleton.trans hq.skeleton.symm)
      (hp.leaves.trans hq.leaves.symm)
  · refine NameSet.ext_of_mem fun name => ?_
    rw [hp.association, hq.association]

/-- A single condition is filled with what its leaf has become. -/
theorem filled_leaf {f : Filter} {p : Predicate} {leaf : Leaf Column} {resolved : Resolved}
    (hf : f.skeleton = .leaf) (hp : p.skeleton = .leaf) (hleaves : p.leaves = [leaf]) :
    f.Filled [(leaf, resolved.association)] p (.ofList resolved.association.toList) := by
  refine ⟨hp.trans hf.symm, hleaves, fun name => ?_⟩
  rw [NameSet.mem_ofList]
  cases resolved.association <;> simp

/-- What has been compiled is filled with what the leaves have become. -/
theorem Compiles.exists_filled {f : Filter} {predicate : Predicate} {associations : NameSet}
    (h : f.Compiles scope predicate associations) :
    ∃ judged, List.Forall₂ (fun leaf found => Leaf.judge scope leaf = .ok found) f.leaves judged ∧
      f.Filled judged predicate associations := by
  induction h with
  | @logical combinator negated left right l r ls rs _ _ ihl ihr =>
    obtain ⟨as, has, hleft⟩ := ihl
    obtain ⟨bs, hbs, hright⟩ := ihr
    refine ⟨as ++ bs, List.rel_append has hbs, ?_, ?_, fun name => ?_⟩
    · rw [Predicate.skeleton, skeleton, hleft.skeleton, hright.skeleton]
    · rw [Predicate.leaves, hleft.leaves, hright.leaves, List.map_append]
    · rw [NameSet.mem_union, hleft.association, hright.association, List.map_append,
        List.mem_append]
  | text hresolved =>
    exact ⟨_, .cons (Leaf.judge_of_resolve hresolved) .nil, filled_leaf rfl rfl rfl⟩
  | number hresolved =>
    exact ⟨_, .cons (Leaf.judge_of_resolve hresolved) .nil, filled_leaf rfl rfl rfl⟩
  | null hresolved =>
    exact ⟨_, .cons (Leaf.judge_of_resolve hresolved) .nil, filled_leaf rfl rfl rfl⟩

end Filter

/-! ### Whole filters -/

variable {f : Filter}

theorem failure?_compileFilter_leaves (f : Filter) :
    failure? (compileFilter scope (some f)) = failure? (f.leaves.mapM (Leaf.judge scope)) := by
  rw [← f.failure?_compile_leaves, compileFilter]
  cases f.compile scope <;> rfl

/-- A filter that is there compiles to what its leaves fill it with. -/
theorem compileFilter_eq_ok_iff_filled {compiled : CompiledFilter} :
    compileFilter scope (some f) = .ok compiled ↔
      ∃ judged predicate,
        List.Forall₂ (fun leaf found => Leaf.judge scope leaf = .ok found) f.leaves judged ∧
          compiled.predicate = some predicate ∧
            f.Filled judged predicate compiled.associations := by
  constructor
  · intro h
    obtain ⟨predicate, associations, hcompiles, rfl⟩ := compileFilter_some_eq_ok.1 h
    obtain ⟨judged, hjudged, hfilled⟩ := hcompiles.exists_filled
    exact ⟨judged, predicate, hjudged, rfl, hfilled⟩
  · rintro ⟨judged, predicate, hjudged, hpredicate, hfilled⟩
    have hmapM : f.leaves.mapM (Leaf.judge scope) = .ok judged := Outcome.mapM_eq_ok.2 hjudged
    have hnone : failure? (compileFilter scope (some f)) = none := by
      rw [failure?_compileFilter_leaves, hmapM]
      rfl
    obtain ⟨other, hother⟩ := Outcome.failure?_eq_none.1 hnone
    -- What comes out is filled in the same way, so it is what was to come out.
    obtain ⟨p, s, hcompiles, rfl⟩ := compileFilter_some_eq_ok.1 hother
    obtain ⟨judged', hjudged', hfilled'⟩ := hcompiles.exists_filled
    obtain rfl : judged' = judged :=
      Except.ok.inj ((Outcome.mapM_eq_ok.2 hjudged').symm.trans hmapM)
    obtain ⟨rfl, rfl⟩ := hfilled'.unique hfilled
    obtain ⟨predicate, associations⟩ := compiled
    obtain rfl : predicate = some p := hpredicate
    exact hother

/-- A filter of one condition becomes that condition on the column that its path leads to. -/
theorem compileFilter_of_leaf {leaf : Leaf FieldPath} {resolved : Resolved}
    (hf : f.leaves = [some leaf]) (hresolved : scope.resolve leaf.field = .ok resolved) :
    ∃ compiled predicate, compileFilter scope (some f) = .ok compiled ∧
      compiled.predicate = some predicate ∧
      predicate.leaves = [⟨resolved.column, leaf.test, leaf.negated⟩] ∧
      compiled.associations = .ofList resolved.association.toList := by
  have hjudge := Leaf.judge_of_resolve hresolved
  have hnone : failure? (compileFilter scope (some f)) = none := by
    rw [failure?_compileFilter_leaves, hf, Outcome.failure?_mapM_singleton, hjudge]
    rfl
  obtain ⟨compiled, hcompiled⟩ := Outcome.failure?_eq_none.1 hnone
  obtain ⟨judged, predicate, hjudged, hpredicate, hfilled⟩ :=
    compileFilter_eq_ok_iff_filled.1 hcompiled
  rw [hf] at hjudged
  obtain ⟨found, _, hfound, hrest, rfl⟩ := List.forall₂_cons_left_iff.1 hjudged
  obtain rfl := List.forall₂_nil_left_iff.1 hrest
  obtain rfl := Except.ok.inj (hjudge.symm.trans hfound)
  refine ⟨compiled, predicate, hcompiled, hpredicate, hfilled.leaves, NameSet.ext_of_mem ?_⟩
  intro name
  rw [hfilled.association, NameSet.mem_ofList, List.map_singleton, List.mem_singleton,
    Option.mem_toList, eq_comm]

end Judge

/-- **A filter compiles exactly when all its leaves do, and else the leftmost failure is told.**
It is refused with an error if and only if a leaf is, while all leaves to the left of it pass.
It compiles if and only if every leaf passes; then the predicate has the combinators and the
negations of the filter at the same places and the conditions that the leaves have become, in
order, and the associations are those that the leaves cross. A filter with a node of an unknown
kind anywhere is refused. -/
theorem compiles_as_its_leaves (scope : Scope) (f : Filter) :
    (∀ e, compileFilter scope (some f) = .error e ↔
      ∃ before leaf after, f.leaves = before ++ leaf :: after ∧
        (∀ passed ∈ before, ∃ found, Leaf.judge scope passed = .ok found) ∧
          Leaf.judge scope leaf = .error e) ∧
    ((∃ compiled, compileFilter scope (some f) = .ok compiled) ↔
      ∀ leaf ∈ f.leaves, ∃ found, Leaf.judge scope leaf = .ok found) ∧
    (∀ compiled, compileFilter scope (some f) = .ok compiled ↔
      ∃ judged predicate,
        List.Forall₂ (fun leaf found => Leaf.judge scope leaf = .ok found) f.leaves judged ∧
          compiled.predicate = some predicate ∧
            f.Filled judged predicate compiled.associations) ∧
    (none ∈ f.leaves → ∃ e, compileFilter scope (some f) = .error e) := by
  have herror (e : CompileError) : compileFilter scope (some f) = .error e ↔
      f.leaves.mapM (Leaf.judge scope) = .error e := by
    rw [← Outcome.failure?_eq_some, failure?_compileFilter_leaves, Outcome.failure?_eq_some]
  have hok : (∃ compiled, compileFilter scope (some f) = .ok compiled) ↔
      ∀ leaf ∈ f.leaves, ∃ found, Leaf.judge scope leaf = .ok found := by
    rw [← Outcome.failure?_eq_none, failure?_compileFilter_leaves, Outcome.failure?_eq_none]
    constructor
    · rintro ⟨judged, hjudged⟩ leaf hleaf
      obtain ⟨found, -, hfound⟩ :=
        Outcome.exists_of_mem_left (Outcome.mapM_eq_ok.1 hjudged) hleaf
      exact ⟨found, hfound⟩
    · exact Outcome.exists_mapM_eq_ok
  refine ⟨fun e => (herror e).trans Outcome.mapM_eq_error, hok,
    fun compiled => compileFilter_eq_ok_iff_filled, fun hnone => ?_⟩
  cases hcompile : compileFilter scope (some f) with
  | error e => exact ⟨e, rfl⟩
  | ok compiled =>
    obtain ⟨found, hfound⟩ := hok.1 ⟨compiled, hcompile⟩ none hnone
    cases hfound

/-- In a tree that has both an unknown field and, to the right of it, a node of an unknown kind,
the field is told, because the leaf before it passes. -/
theorem compiles_as_its_leaves_of_tickets :
    ∃ f : Filter, none ∈ f.leaves ∧ (∃ e, compileFilter ticketScope (some f) = .error e) ∧
      compileFilter ticketScope (some f) = .error (.unknownField "Ticket" "ghost") := by
  let passes : Filter := .text ⟨["author", "name"]⟩ .eq "Ada" false
  let fails : Filter := .number ⟨["ghost"]⟩ .gt ⟨0⟩ true
  let f : Filter := passes.and (.logical .or true fails .unsupported)
  obtain ⟨herror, -, -, hunknown⟩ := compiles_as_its_leaves ticketScope f
  have hnone : none ∈ f.leaves := by decide
  refine ⟨f, hnone, hunknown hnone, (herror _).2 ?_⟩
  refine ⟨passes.leaves, some ⟨⟨["ghost"]⟩, .compare .gt (.number ⟨0⟩), true⟩, [none], rfl, ?_, rfl⟩
  intro leaf hleaf
  obtain rfl := List.mem_singleton.1 hleaf
  exact ⟨_, rfl⟩

end RequestSql
