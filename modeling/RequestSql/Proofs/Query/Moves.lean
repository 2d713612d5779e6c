import Mathlib.Data.List.Induction
import RequestSql.Proofs.Query.Additions
import RequestSql.Query.Fragments
import RequestSql.Query.Step

/-!
# Moves

A query is built by moves, in any order and as often as one likes: compiled filters, terms of
the order, the joins of a set of associations, windows and preloads. A move is compiled before
it touches the builder, so whether it fails does not depend on the builder, and what it adds
is the same for every builder. A run is therefore one sequence of additions, and fragments
that began empty record all of them, each kind in its own part.

Key definitions: `Move`, `Move.apply`, `run`, `Fragments.ofAdditions`.
Key theorems: `Move.apply_eq`, `run_eq_build`, `apply_run`, `Fragments.build_empty`.
-/

namespace RequestSql

/-! ### Moves -/

/-- A step that does not bring a predicate of its own. -/
def Step.Compiled : Step → Prop
  | predicate _ _ => False
  | _ => True

/-- One move in building a query. -/
inductive Move where
  /-- A filter that may be absent, as a tree. -/
  | tree (f : Option Filter)
  | step (s : Step) (compiled : s.Compiled)

namespace Move

variable {β : Type} [Builder β]

/-- A builder after a move. -/
def apply (scope : Scope) (move : Move) (b : β) : Except CompileError β :=
  match move with
  | tree f => (compileFilter scope f).map (·.applyTo b)
  | step s _ => s.apply scope b

/-- A builder after a move; one that fails leaves it as it is. -/
def perform (scope : Scope) (b : β) (move : Move) : β :=
  match move.apply scope b with
  | .ok next => next
  | .error _ => b

/-- The window that is set. -/
def window? : Move → Option Window
  | step (.window bounds) _ => some bounds
  | _ => none

/-- What a move adds to any builder. -/
def additions (scope : Scope) : Move → Except CompileError (List Addition)
  | tree f => (compileFilter scope f).map fun compiled => [.filter compiled]
  | step (.filter input) _ =>
    (compileFilterText scope.catalog scope.entityName input).map fun compiled => [.filter compiled]
  | step (.predicate _ _) compiled => compiled.elim
  | step (.order tag descending) _ =>
    (scope.resolveDotted tag).map fun resolved => [.order ⟨resolved.column, descending⟩]
  | step (.joins associations) _ =>
    (assembleJoins scope (.ofList associations)).map fun joins => joins.map .join
  | step (.window bounds) _ => .ok [.window bounds]
  | step (.preload association) _ => .ok [.preload association]

/-- What a move adds; one that fails adds nothing. -/
def added (scope : Scope) (move : Move) : List Addition :=
  match move.additions scope with
  | .ok additions => additions
  | .error _ => []

theorem map_map_build {α : Type} {x : Except CompileError α} {f : α → List Addition} {g : α → β}
    {b : β} (h : ∀ a, build (f a) b = g a) : x.map g = (x.map f).map (build · b) := by
  cases x with
  | error e => rfl
  | ok a => exact congrArg Except.ok (h a).symm

/-- A move is compiled first, and then what it adds is added. -/
theorem apply_eq (scope : Scope) (move : Move) (b : β) :
    move.apply scope b = (move.additions scope).map (build · b) := by
  cases move with
  | tree f => exact map_map_build fun compiled => rfl
  | step s compiled =>
    cases s with
    | filter input => exact map_map_build fun compiled => rfl
    | predicate text params => exact compiled.elim
    | order tag descending => exact map_map_build fun resolved => rfl
    | joins associations => exact map_map_build fun joins => List.foldl_map
    | window bounds => rfl
    | preload association => rfl

theorem perform_eq (scope : Scope) (b : β) (move : Move) :
    move.perform scope b = build (move.added scope) b := by
  rw [perform, apply_eq, added]
  cases move.additions scope <;> rfl

theorem lastWindow_added (scope : Scope) (move : Move) :
    lastWindow (move.added scope) = move.window? := by
  unfold added
  cases move with
  | tree f =>
    rw [additions]
    cases compileFilter scope f <;> rfl
  | step s compiled =>
    cases s with
    | filter input =>
      rw [additions]
      cases compileFilterText scope.catalog scope.entityName input <;> rfl
    | predicate text params => exact compiled.elim
    | order tag descending =>
      rw [additions]
      cases scope.resolveDotted tag <;> rfl
    | joins associations =>
      rw [additions]
      cases assembleJoins scope (.ofList associations) with
      | error e => rfl
      | ok joins => exact lastWindow_map_of_none (fun _ => rfl) _
    | window bounds => rfl
    | preload association => rfl

end Move

/-! ### Runs -/

/-- A builder after some moves. -/
def run {β : Type} [Builder β] (scope : Scope) (moves : List Move) (b : β) : β :=
  moves.foldl (Move.perform scope) b

section

variable {β : Type} [Builder β]

theorem run_concat (scope : Scope) (moves : List Move) (move : Move) (b : β) :
    run scope (moves ++ [move]) b = move.perform scope (run scope moves b) :=
  List.foldl_append

/-- A run is making the additions of its moves. -/
theorem run_eq_build (scope : Scope) (moves : List Move) (b : β) :
    run scope moves b = build (moves.flatMap (Move.added scope)) b := by
  induction moves generalizing b with
  | nil => rfl
  | cons move moves ih =>
    rw [run, List.foldl_cons, ← run, ih, Move.perform_eq, List.flatMap_cons, build_append]

end

/-- Both builders make a move, or neither does and both report the same error. -/
theorem apply_run (scope : Scope) (moves : List Move) (move : Move) (s : Select) (q : Fragments) :
    (∃ e, move.apply scope (run scope moves s) = .error e ∧
        move.apply scope (run scope moves q) = .error e ∧
        run scope (moves ++ [move]) s = run scope moves s ∧
        run scope (moves ++ [move]) q = run scope moves q) ∨
      (move.apply scope (run scope moves s) = .ok (run scope (moves ++ [move]) s) ∧
        move.apply scope (run scope moves q) = .ok (run scope (moves ++ [move]) q)) := by
  rw [run_concat, run_concat, Move.perform, Move.perform, Move.apply_eq, Move.apply_eq]
  cases move.additions scope with
  | error e => exact .inl ⟨e, rfl, rfl, rfl, rfl⟩
  | ok additions => exact .inr ⟨rfl, rfl⟩

/-- The last window that is added is the one of the last move that sets one. -/
theorem lastWindow_flatMap_added (scope : Scope) (moves : List Move) :
    lastWindow (moves.flatMap (Move.added scope)) = (moves.filterMap Move.window?).getLast? := by
  induction moves with
  | nil => rfl
  | cons move moves ih =>
    rw [List.flatMap_cons, lastWindow_append, ih, Move.lastWindow_added]
    cases hwindow : move.window? with
    | none => rw [List.filterMap_cons_none hwindow, Option.or_none]
    | some bounds =>
      rw [List.filterMap_cons_some hwindow, List.getLast?_cons]
      cases (moves.filterMap Move.window?).getLast? <;> rfl

/-! ### What fragments record -/

namespace Addition

/-- The text of the term that is added. -/
def termText? : Addition → Option String
  | order term => some term.text
  | _ => none

/-- The text of the join that is added. -/
def joinText? : Addition → Option String
  | .join clause => some clause.text
  | _ => none

/-- The association that is to be loaded along. -/
def preload? : Addition → Option String
  | preload association => some association
  | _ => none

end Addition

namespace Fragments

/-- What is added, each kind of it in order, and of the windows the last one. -/
def ofAdditions (additions : List Addition) : Fragments where
  predicates := additions.filterMap Addition.condition?
  order := additions.filterMap Addition.termText?
  joins := additions.filterMap Addition.joinText?
  window := lastWindow additions
  preloads := additions.filterMap Addition.preload?

/-- What is added goes to its own part, behind what is there. -/
theorem apply_eq (q : Fragments) (addition : Addition) :
    addition.apply q =
      ⟨q.predicates ++ addition.condition?.toList, q.order ++ addition.termText?.toList,
        q.joins ++ addition.joinText?.toList, addition.window?.or q.window,
        q.preloads ++ addition.preload?.toList⟩ := by
  unfold Addition.condition? Addition.termText? Addition.joinText? Addition.window?
    Addition.preload?
  cases addition with
  | filter f =>
    obtain ⟨predicate, associations⟩ := f
    cases predicate <;>
      simp [Addition.apply, CompiledFilter.applyTo, CompiledFilter.condition?, Builder.filter]
  | order term => simp [Addition.apply, Builder.orderBy]
  | join clause => simp [Addition.apply, Builder.join]
  | window bounds => simp [Addition.apply, Builder.paginate]
  | preload association => simp [Addition.apply, Builder.preload]

theorem ofAdditions_concat (additions : List Addition) (addition : Addition) :
    ofAdditions (additions ++ [addition]) = addition.apply (ofAdditions additions) := by
  have hone : ∀ {α : Type} (f : Addition → Option α),
      (additions ++ [addition]).filterMap f = additions.filterMap f ++ (f addition).toList := by
    intro α f
    rw [List.filterMap_append, List.filterMap_cons]
    cases f addition <;> rfl
  rw [apply_eq]
  simp only [ofAdditions, hone, lastWindow_append]
  rfl

/-- Fragments record everything that is added to them. -/
theorem build_empty (additions : List Addition) :
    build additions empty = ofAdditions additions := by
  induction additions using List.reverseRecOn with
  | nil => rfl
  | append_singleton additions addition ih =>
    rw [build_append, ih, ofAdditions_concat]
    rfl

end Fragments

end RequestSql
