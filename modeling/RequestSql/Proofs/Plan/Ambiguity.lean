import Mathlib.Data.List.Nodup
import RequestSql.Proofs.Plan.Joined
import RequestSql.Proofs.Plan.PredicateText
import RequestSql.Proofs.Text.Run

/-!
# When a statement is unambiguous

Columns are qualified by their table. So a column names one place of a statement as long as
every table is listed once; it does not when two associations lead to one table, or one of
them back to the entity's own. Whether this happens is decided by the request and the schema
together: a statement is unambiguous exactly when the entity itself and the associations
that are crossed lead to tables that are all different.

Key definitions: `Plan.Unambiguous`, `Scope.Apart`.
Key theorems: `Column.Named.eq_of_text_eq`, `nodup_tables_iff`,
`unambiguous_iff_tables_apart`.
-/

namespace RequestSql

/-! ### Texts of columns -/

/-- Of two columns with the same text, both are the same, since an identifier has no point. -/
theorem Column.Named.eq_of_text_eq {a b : Column} (ha : a.Named) (hb : b.Named)
    (h : a.text = b.text) : a = b := by
  have hpart : ∀ {name : String}, isIdentifier name = true →
      ∀ c ∈ name.toList, isIdentifierPart c = true := fun hname _ => isIdentifierPart_of_mem hname
  have heq := congrArg String.toList h
  rw [Column.toList_text, Column.toList_text] at heq
  have htable := congrArg (List.takeWhile isIdentifierPart) heq
  have hname := congrArg (List.dropWhile isIdentifierPart) heq
  rw [Text.takeWhile_run (hpart ha.table) (by decide),
    Text.takeWhile_run (hpart hb.table) (by decide)] at htable
  rw [Text.dropWhile_run (hpart ha.table) (by decide),
    Text.dropWhile_run (hpart hb.table) (by decide)] at hname
  obtain ⟨table, name⟩ := a
  obtain ⟨otherTable, otherName⟩ := b
  obtain rfl : table = otherTable := String.toList_inj.1 htable
  obtain rfl : name = otherName := String.toList_inj.1 (List.cons.inj hname).2
  rfl

/-! ### Unambiguous statements -/

/-- The statement of a plan is unambiguous: no table is listed twice, so that every column
belongs to just one of them, and paths that do not start out in the same way have columns
with different texts. -/
structure Plan.Unambiguous (scope : Scope) (operators : Operators) (plan : Plan) : Prop where
  tables : (plan.tables scope).Nodup
  columns : ∀ column ∈ plan.columns ++ plan.keyColumns,
    (plan.tables scope).count column.table = 1
  texts : ∀ path ∈ operators.paths, ∀ other ∈ operators.paths, path.crossed? ≠ other.crossed? →
    ∀ a b, scope.Names path a → scope.Names other b → a.text ≠ b.text

/-- The entity and the associations of these names lead to different tables. -/
def Scope.Apart (scope : Scope) (names : List String) : Prop :=
  ∀ a ∈ none :: names.map some, ∀ b ∈ none :: names.map some,
    scope.tableOf? a = scope.tableOf? b → a = b

instance (scope : Scope) (names : List String) : Decidable (scope.Apart names) :=
  inferInstanceAs (Decidable (∀ a ∈ none :: names.map some, ∀ b ∈ none :: names.map some,
    scope.tableOf? a = scope.tableOf? b → a = b))

section Plan

variable {scope : Scope} {defaultLimit : UInt64} {operators : Operators} {plan : Plan}

theorem nodup_origins (h : compileIn scope defaultLimit operators = .ok plan) :
    plan.origins.Nodup := by
  have hnames : (plan.joins.map (·.association)).Nodup := by
    rw [map_association_joins h]
    exact (NameSet.ascending _).imp String.ne_of_lt
  have hsome := hnames.map (Option.some_injective _)
  refine List.nodup_cons.2 ⟨fun hmem => ?_, hsome⟩
  obtain ⟨name, -, hname⟩ := List.mem_map.1 hmem
  cases hname

/-- No table is listed twice if the associations that are crossed lead to different ones. -/
theorem nodup_tables_iff (h : compileIn scope defaultLimit operators = .ok plan) :
    (plan.tables scope).Nodup ↔ scope.Apart operators.crossed := by
  have htables : (plan.origins.map scope.tableOf?).Nodup ↔ (plan.tables scope).Nodup := by
    rw [map_tableOf?_origins h, List.nodup_map_iff (Option.some_injective _)]
  rw [← htables, List.nodup_map_iff_inj_on (nodup_origins h), Scope.Apart]
  simp only [mem_origins h]

theorem unambiguous_iff (hscope : scope.Named)
    (h : compileIn scope defaultLimit operators = .ok plan) :
    plan.Unambiguous scope operators ↔ scope.Apart operators.crossed := by
  refine ⟨fun hplan => (nodup_tables_iff h).1 hplan.tables, fun hapart => ?_⟩
  have hnodup := (nodup_tables_iff h).2 hapart
  refine ⟨hnodup, fun column hcolumn => ?_, ?_⟩
  · exact List.count_eq_one_of_mem hnodup (table_mem_tables h hcolumn)
  · intro path hpath other hother hcrossed a b ha hb htext
    have hnamed : ∀ {path column}, scope.Names path column → column.Named := fun hnames =>
      hscope.resolve (Scope.resolve_iff_reaches.2 hnames)
    obtain rfl := (hnamed ha).eq_of_text_eq (hnamed hb) htext
    have htable := ha.tableOf?_eq.trans hb.tableOf?_eq.symm
    exact hcrossed (hapart _ ((mem_origins h).1 (crossed?_mem_origins h hpath)) _
      ((mem_origins h).1 (crossed?_mem_origins h hother)) htable)

end Plan

/-- **A statement is unambiguous if its tables are apart.** For any request that compiles,
every table is listed once, every column belongs to just one of the tables listed and paths
across different associations have different columns, if and only if the entity and the
associations that the request crosses lead to different tables. -/
theorem unambiguous_iff_tables_apart (schema : Schema) (defaultLimit : UInt64)
    (entityName : String) (operators : Operators) (plan : Plan)
    (h : compile schema.catalog defaultLimit entityName operators.request = .ok plan) :
    ∃ scope, Scope.of? schema.catalog entityName = .ok scope ∧
      (plan.Unambiguous scope operators ↔ scope.Apart operators.crossed) := by
  rw [compile_request] at h
  obtain ⟨scope, hscope, hplan⟩ := Outcome.bind_eq_ok.1 h
  exact ⟨scope, hscope, unambiguous_iff (Scope.named_of_of? schema.catalog_named hscope) hplan⟩

/-- An author and a project are in tables of their own. -/
theorem unambiguous_authors_and_projects :
    ∃ operators plan, compile tracker.catalog 20 "Ticket" (Operators.request operators) = .ok plan ∧
      operators.crossed = ["author", "project"] ∧ plan.Unambiguous ticketScope operators := by
  let operators : Operators :=
    ⟨some (.text ⟨["author", "name"]⟩ .eq "Ada" false), some [⟨"project.name", false⟩], none, none⟩
  obtain ⟨plan, hplan⟩ : ∃ plan, compileIn ticketScope 20 operators = .ok plan := ⟨_, rfl⟩
  have h := (compile_request_eq scope_ticket 20 operators).trans hplan
  obtain ⟨scope, hscope, hiff⟩ := unambiguous_iff_tables_apart tracker 20 "Ticket" operators plan h
  obtain rfl := Except.ok.inj (hscope.symm.trans scope_ticket)
  have hapart : ticketScope.Apart ["author", "project"] := by decide +kernel
  exact ⟨operators, plan, h, rfl, hiff.2 hapart⟩

/-- The author and the assignee of a ticket are the same column of a table that is listed
twice. -/
theorem ambiguous_authors_and_assignees :
    ∃ operators plan, compile tracker.catalog 20 "Ticket" (Operators.request operators) = .ok plan ∧
      plan.tables ticketScope = ["tickets", "users", "users"] ∧
      plan.filter.text = "((users.name = ?) AND (users.name = ?))" ∧
      ¬ plan.Unambiguous ticketScope operators := by
  let operators : Operators :=
    ⟨some ((Filter.text ⟨["author", "name"]⟩ .eq "Ada" false).and
      (.text ⟨["assignee", "name"]⟩ .eq "Bob" false)), none, none, none⟩
  obtain ⟨plan, hplan⟩ : ∃ plan, compileIn ticketScope 20 operators = .ok plan := ⟨_, rfl⟩
  have h := (compile_request_eq scope_ticket 20 operators).trans hplan
  have htables : plan.tables ticketScope = ["tickets", "users", "users"] := by
    obtain rfl := Except.ok.inj hplan
    rfl
  have htext : plan.filter.text = "((users.name = ?) AND (users.name = ?))" := by
    obtain rfl := Except.ok.inj hplan
    rfl
  refine ⟨operators, plan, h, htables, htext, fun hplan => ?_⟩
  have hnodup := hplan.tables
  rw [htables] at hnodup
  exact absurd hnodup (by decide)

end RequestSql
