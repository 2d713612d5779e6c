import RequestSql.Query.Select

/-!
# Additions

Whatever is added to a query goes to its own part of it, so a part of the query that comes
out is what was added to that part, in order, no matter what else was added in between. Of
the windows the last one counts. Applying a plan is one such sequence of additions.

Key definitions: `Addition`, `Addition.apply`, `build`.
Key theorems: `Select.conditions_build`, `Select.window_build`, `Plan.applyTo_eq_build`.
-/

namespace RequestSql

/-- One thing that is added to a query. -/
inductive Addition where
  | filter (f : CompiledFilter)
  | order (term : OrderTerm)
  | join (clause : Join)
  | window (bounds : Window)
  | preload (association : String)
deriving DecidableEq, Repr

/-- The text of the predicate, if there is one, and the values of its marks. -/
def CompiledFilter.condition? (f : CompiledFilter) : Option (String × List Param) :=
  f.predicate.map fun predicate => (predicate.text, predicate.params)

namespace Addition

/-- The query with the addition. -/
def apply {β : Type} [Builder β] (b : β) : Addition → β
  | filter f => f.applyTo b
  | order term => Builder.orderBy b term
  | .join clause => Builder.join b clause
  | .window bounds => Builder.paginate b bounds
  | preload association => Builder.preload b association

/-- The condition that is added. -/
def condition? : Addition → Option (String × List Param)
  | filter f => f.condition?
  | _ => none

/-- The values that are added with a filter. -/
def params : Addition → List Param
  | filter f => f.params
  | _ => []

/-- The window that is set. -/
def window? : Addition → Option Window
  | .window bounds => some bounds
  | _ => none

end Addition

/-- The query with all additions, one after the other. -/
def build {β : Type} [Builder β] (additions : List Addition) (b : β) : β :=
  additions.foldl Addition.apply b

theorem build_append {β : Type} [Builder β] (additions others : List Addition) (b : β) :
    build (additions ++ others) b = build others (build additions b) :=
  List.foldl_append

/-- The window that is set last. -/
def lastWindow : List Addition → Option Window
  | [] => none
  | addition :: additions => (lastWindow additions).or addition.window?

theorem lastWindow_append (additions others : List Addition) :
    lastWindow (additions ++ others) = (lastWindow others).or (lastWindow additions) := by
  induction additions with
  | nil => exact Option.or_none.symm
  | cons addition additions ih => rw [List.cons_append, lastWindow, ih, Option.or_assoc, lastWindow]

theorem lastWindow_map_of_none {α : Type} {f : α → Addition} (h : ∀ a, (f a).window? = none)
    (as : List α) : lastWindow (as.map f) = none := by
  induction as with
  | nil => rfl
  | cons a as ih => rw [List.map_cons, lastWindow, ih, h, Option.none_or]

/-- What a plan adds. -/
def Plan.additions (plan : Plan) : List Addition :=
  .filter plan.filter :: plan.sort.terms.map .order ++ plan.joins.map .join ++
    plan.window.toList.map .window ++ plan.preloads.map .preload

/-- Applying a plan is making its additions. -/
theorem Plan.applyTo_eq_build {β : Type} [Builder β] (plan : Plan) (b : β) :
    plan.applyTo b = build plan.additions b := by
  have hwindow : ∀ b : β, paginateWith b plan.window =
      (plan.window.toList.map .window).foldl Addition.apply b := by
    intro b
    cases plan.window <;> rfl
  unfold Plan.applyTo build Plan.additions
  simp only [List.foldl_append, List.foldl_cons, List.foldl_map, hwindow]
  rfl

theorem Plan.flatMap_params_additions (plan : Plan) :
    plan.additions.flatMap Addition.params = plan.filter.params := by
  simp [additions, List.flatMap_map, Addition.params]

theorem Plan.lastWindow_additions (plan : Plan) : lastWindow plan.additions = plan.window := by
  have hwindow : lastWindow (plan.window.toList.map .window) = plan.window := by
    cases plan.window <;> rfl
  have hsort : lastWindow (plan.sort.terms.map .order) = none :=
    lastWindow_map_of_none (fun _ => rfl) _
  have hjoins : lastWindow (plan.joins.map .join) = none :=
    lastWindow_map_of_none (fun _ => rfl) _
  have hpreloads : lastWindow (plan.preloads.map .preload) = none :=
    lastWindow_map_of_none (fun _ => rfl) _
  rw [additions, lastWindow_append, lastWindow_append, lastWindow_append, lastWindow, hpreloads,
    hwindow, hjoins, hsort, Option.none_or]
  cases plan.window <;> rfl

/-! ### Select statements -/

namespace Select

theorem conditions_apply (s : Select) (addition : Addition) :
    (addition.apply s).conditions = s.conditions ++ addition.condition?.toList := by
  cases addition with
  | filter f =>
    obtain ⟨predicate, associations⟩ := f
    cases predicate with
    | none => simp [Addition.apply, Addition.condition?, CompiledFilter.applyTo,
        CompiledFilter.condition?]
    | some predicate => rfl
  | order term => simp [Addition.apply, Addition.condition?, Builder.orderBy]
  | join clause => simp [Addition.apply, Addition.condition?, Builder.join]
  | window bounds => simp [Addition.apply, Addition.condition?, Builder.paginate]
  | preload association =>
    simp only [Addition.apply, Addition.condition?, Builder.preload, Option.toList_none,
      List.append_nil]
    split <;> rfl

/-- The conditions are those of the filters, in the order in which they were added. -/
theorem conditions_build (additions : List Addition) (s : Select) :
    (build additions s).conditions =
      s.conditions ++ additions.flatMap (·.condition?.toList) := by
  induction additions generalizing s with
  | nil => exact (List.append_nil _).symm
  | cons addition additions ih =>
    rw [build, List.foldl_cons, ← build, ih, conditions_apply, List.flatMap_cons,
      List.append_assoc]

theorem window_apply (s : Select) (addition : Addition) :
    (addition.apply s).window = addition.window?.or s.window := by
  cases addition with
  | filter f =>
    obtain ⟨predicate, associations⟩ := f
    cases predicate <;> rfl
  | order term => rfl
  | join clause => rfl
  | window bounds => rfl
  | preload association =>
    simp only [Addition.apply, Addition.window?, Builder.preload, Option.none_or]
    split <;> rfl

/-- The window is the one that was set last. -/
theorem window_build (additions : List Addition) (s : Select) :
    (build additions s).window = (lastWindow additions).or s.window := by
  induction additions generalizing s with
  | nil => rfl
  | cons addition additions ih =>
    rw [build, List.foldl_cons, ← build, ih, window_apply, lastWindow, Option.or_assoc]

end Select

end RequestSql
