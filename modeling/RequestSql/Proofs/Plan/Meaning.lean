import RequestSql.Proofs.Sql.Symbols

/-!
# What a compiled filter means

A filter has a truth value of its own, in a world that gives values to columns: every path
stands for the column that it leads to, every leaf is a comparison or a test for a missing
value, and a negated node is the opposite of what it would be otherwise. Compiling keeps
this value: the text of a compiled filter can be read as a condition of SQL, in one way
only, and the condition has the truth value of the filter in every world. A filter and its
opposite therefore have texts with opposite readings.

Key definitions: `Filter.truth`.
Key theorems: `Filter.Compiles.truth_eq`, `compiledText_reads_as_filter`.
-/

namespace RequestSql

open Sql (Truth World IsReading)

/-! ### The meaning of filters -/

/-- How SQL writes an operator on texts. -/
def TextOp.sign : TextOp → String
  | eq => "="
  | matching => "~"

/-- How SQL writes an operator on numbers. -/
def NumberOp.sign : NumberOp → String
  | eq => "="
  | gt => ">"
  | ge => ">="
  | lt => "<"
  | le => "<="

/-- The column that a path leads to. -/
def Scope.column? (scope : Scope) (path : FieldPath) : Option Column :=
  match scope.resolve path with
  | .ok resolved => some resolved.column
  | .error _ => none

/-- The truth value of a filter; there is none if a path leads nowhere or a node is not
supported. -/
def Filter.truth {V : Type} (scope : Scope) (world : World V) : Filter → Option Truth
  | logical combinator negated left right => do
    let l ← left.truth scope world
    let r ← right.truth scope world
    return Truth.flip negated (match combinator with | .and => l.and r | .or => l.or r)
  | text path op value negated => do
    let column ← scope.column? path
    return Truth.flip negated (world.compare column op.sign (.text value))
  | number path op value negated => do
    let column ← scope.column? path
    return Truth.flip negated (world.compare column op.sign (.number value))
  | null path negated => do
    let column ← scope.column? path
    return Truth.flip negated (world.isNull column)
  | unsupported => none

theorem Scope.column?_of_resolve {scope : Scope} {path : FieldPath} {resolved : Resolved}
    (h : scope.resolve path = .ok resolved) : scope.column? path = some resolved.column := by
  unfold Scope.column?
  rw [h]

theorem Predicate.truth_negatedCondition {V : Type} (world : World V) (negated : Bool)
    (c : Sql.Condition) :
    (negatedCondition negated c).truth world = Truth.flip negated (c.truth world) := by
  cases negated <;> rfl

/-- Compiling keeps the truth value. -/
theorem Filter.Compiles.truth_eq {V : Type} {scope : Scope} (world : World V) {f : Filter}
    {predicate : Predicate} {associations : NameSet}
    (h : f.Compiles scope predicate associations) :
    f.truth scope world = some (predicate.condition.truth world) := by
  induction h with
  | @logical combinator negated left right l r ls rs _ _ ihl ihr =>
    rw [truth, ihl, ihr]
    cases combinator with
    | and => rw [Predicate.condition, Predicate.truth_negatedCondition]; rfl
    | or => rw [Predicate.condition, Predicate.truth_negatedCondition]; rfl
  | @text path op value negated resolved hresolved =>
    rw [truth, Scope.column?_of_resolve hresolved, Predicate.condition,
      Predicate.truth_negatedCondition]
    cases op <;> rfl
  | @number path op value negated resolved hresolved =>
    rw [truth, Scope.column?_of_resolve hresolved, Predicate.condition,
      Predicate.truth_negatedCondition]
    cases op <;> rfl
  | null hresolved =>
    rw [truth, Scope.column?_of_resolve hresolved, Predicate.condition,
      Predicate.truth_negatedCondition]
    rfl

/-! ### Opposites -/

/-- Flipping the mark of a leaf turns its truth value around, if it has one. -/
theorem map_not_leaf (column? : Option Column) (negated : Bool) (leaf : Column → Truth) :
    (column?.bind fun column => some (Truth.flip (!negated) (leaf column))) =
      (column?.bind fun column => some (Truth.flip negated (leaf column))).map Truth.not := by
  cases column? with
  | none => rfl
  | some column => exact congrArg some (Truth.flip_not negated _)

/-- The opposite filter has the opposite truth value. -/
theorem Filter.truth_negate {V : Type} (scope : Scope) (world : World V) (f : Filter) :
    f.negate.truth scope world = (f.truth scope world).map Truth.not := by
  cases f with
  | logical combinator negated left right =>
    rw [negate, truth, truth]
    cases left.truth scope world with
    | none => rfl
    | some l =>
      cases right.truth scope world with
      | none => rfl
      | some r => exact congrArg some (Truth.flip_not negated _)
  | text path op value negated => exact map_not_leaf (scope.column? path) negated _
  | number path op value negated => exact map_not_leaf (scope.column? path) negated _
  | null path negated => exact map_not_leaf (scope.column? path) negated _
  | unsupported => rfl

/-- The opposite of a filter compiles if the filter does. -/
theorem Filter.Compiles.exists_negate {scope : Scope} {f : Filter} {predicate : Predicate}
    {associations : NameSet} (h : f.Compiles scope predicate associations) :
    ∃ opposite, f.negate.Compiles scope opposite associations := by
  cases h with
  | logical hl hr => exact ⟨_, .logical hl hr⟩
  | text hresolved => exact ⟨_, .text hresolved⟩
  | number hresolved => exact ⟨_, .number hresolved⟩
  | null hresolved => exact ⟨_, .null hresolved⟩

/-! ### Texts -/

/-- The text of a compiled filter has one reading, with the truth value of the filter. -/
theorem exists_isReading_of_compileFilter {scope : Scope} (hscope : scope.Named) {f : Filter}
    {compiled : CompiledFilter} (h : compileFilter scope (some f) = .ok compiled) :
    ∃ c, IsReading compiled.text compiled.params c ∧
      ∀ (V : Type) (world : World V), f.truth scope world = some (c.truth world) := by
  obtain ⟨predicate, associations, hcompile, rfl⟩ := compileFilter_some_eq_ok.1 h
  exact ⟨predicate.condition, Sql.isReading_predicate (hcompile.named hscope),
    fun V world => hcompile.truth_eq world⟩

/-- **Compiling keeps the meaning of a filter.** Of a well-formed schema, any filter that
compiles has a text that reads, with its values, as one condition, which is true, false or
unknown where the filter is. Its opposite compiles, too, and has a text that reads as a
condition with the opposite truth value everywhere. -/
theorem compiledText_reads_as_filter (schema : Schema) (entityName : String) (scope : Scope)
    (f : Filter) (compiled : CompiledFilter)
    (hscope : Scope.of? schema.catalog entityName = .ok scope)
    (hcompiled : compileFilter scope (some f) = .ok compiled) :
    ∃ c, IsReading compiled.text compiled.params c ∧
      (∀ (V : Type) (world : World V), f.truth scope world = some (c.truth world)) ∧
      ∃ opposite d, compileFilter scope (some f.negate) = .ok opposite ∧
        IsReading opposite.text opposite.params d ∧
          ∀ (V : Type) (world : World V), d.truth world = (c.truth world).not := by
  have hnamed := Scope.named_of_of? schema.catalog_named hscope
  obtain ⟨c, hc, htruth⟩ := exists_isReading_of_compileFilter hnamed hcompiled
  obtain ⟨predicate, associations, hcompile, -⟩ := compileFilter_some_eq_ok.1 hcompiled
  obtain ⟨p, hp⟩ := hcompile.exists_negate
  have hopposite := compileFilter_some_eq_ok.2 ⟨p, associations, hp, rfl⟩
  obtain ⟨d, hd, htruth'⟩ := exists_isReading_of_compileFilter hnamed hopposite
  refine ⟨c, hc, htruth, _, d, hopposite, hd, fun V world => ?_⟩
  have h := htruth' V world
  rw [Filter.truth_negate, htruth V world] at h
  exact (Option.some.inj h).symm

/-- A filter with negations on every level, over two tables, and a value that looks like
SQL. -/
theorem compiledText_reads_as_filter_nested :
    ∃ f compiled c, compileFilter Config.itemScope (some f) = .ok compiled ∧
      compiled.text = "NOT(((items.name = ?) AND NOT(owners.city ~ ?)) OR " ++
        "NOT(NOT(items.deleted_at IS NULL) AND (items.age >= ?)))" ∧
      compiled.params = [.text "a' or ? = ?", .text "^O", .number ⟨0⟩] ∧
      IsReading compiled.text compiled.params c ∧
      ∀ (V : Type) (world : World V), f.truth Config.itemScope world = some (c.truth world) := by
  let f : Filter := .logical .or true
    (.logical .and false (.text ⟨["name"]⟩ .eq "a' or ? = ?" false)
      (.text ⟨["owner", "city"]⟩ .matching "^O" true))
    (.logical .and true (.null ⟨["deleted"]⟩ true) (.number ⟨["age"]⟩ .ge ⟨0⟩ false))
  obtain ⟨c, hc, htruth, -⟩ := compiledText_reads_as_filter Config.demo.schema "Item"
    Config.itemScope f _ Config.scope_item rfl
  exact ⟨f, _, c, rfl, rfl, rfl, hc, htruth⟩

end RequestSql
