import RequestSql.Proofs.Names.History
import RequestSql.Proofs.Plan.References

/-!
# What a plan joins

A plan joins the associations that the paths of its request cross, each once and in
ascending order, however often and wherever they are crossed. So its joins depend on nothing
but the set of these associations. Every column of a plan belongs to the table of its own
entity or to a joined one: a column is reached from one of the origins of the plan, which are
the entity itself (`none`) and the joined associations, and the origin decides the table.

Key definitions: `Plan.tables`, `Plan.origins`.
Key theorems: `Plan.map_tableOf?_origins`, `table_mem_tables`, `joins_eq_of_crossed`,
`joins_are_the_crossed_associations`.
-/

namespace RequestSql

namespace Plan

/-- The tables that the statement of a plan lists: the entity's own and the joined ones. -/
def tables (scope : Scope) (plan : Plan) : List String :=
  scope.entity.table :: plan.joins.map (·.table)

/-- From where the columns of a plan are reached. -/
def origins (plan : Plan) : List (Option String) :=
  none :: (plan.joins.map (·.association)).map some

end Plan

section Plan

variable {scope : Scope} {defaultLimit : UInt64} {operators : Operators} {plan : Plan}

theorem Scope.tableOf?_of_join {join : Join} (h : scope.join join.association = .ok join) :
    scope.tableOf? (some join.association) = some join.table := by
  obtain ⟨association, target, hleads, heq⟩ := join_eq_ok.1 h
  rw [hleads.tableOf?_eq, heq]

/-- The tables of a plan are those of its origins. -/
theorem map_tableOf?_origins (h : compileIn scope defaultLimit operators = .ok plan) :
    plan.origins.map scope.tableOf? = (plan.tables scope).map some := by
  rw [Plan.origins, Plan.tables, List.map_cons, List.map_cons, List.map_map, List.map_map,
    List.map_map]
  refine congrArg (_ :: ·) (List.map_congr_left fun join hjoin => ?_)
  exact Scope.tableOf?_of_join (join_of_mem_joins h hjoin)

theorem mem_origins (h : compileIn scope defaultLimit operators = .ok plan)
    {origin : Option String} :
    origin ∈ plan.origins ↔ origin ∈ none :: operators.crossed.map some := by
  rw [Plan.origins, List.mem_cons, List.mem_cons, List.mem_map, List.mem_map]
  simp only [mem_map_association_joins h]

/-- A path of the request is reached from one of the origins of the plan. -/
theorem crossed?_mem_origins (h : compileIn scope defaultLimit operators = .ok plan)
    {path : FieldPath} (hpath : path ∈ operators.paths) : path.crossed? ∈ plan.origins := by
  rw [mem_origins h]
  cases hcrossed : path.crossed? with
  | none => exact List.mem_cons_self ..
  | some name =>
    have hmem : name ∈ operators.crossed := List.mem_filterMap.2 ⟨path, hpath, hcrossed⟩
    exact List.mem_cons_of_mem _ (List.mem_map_of_mem hmem)

/-- Every column of filter, order and joins belongs to a table that is listed. -/
theorem table_mem_tables (h : compileIn scope defaultLimit operators = .ok plan)
    {column : Column} (hcolumn : column ∈ plan.columns ++ plan.keyColumns) :
    column.table ∈ plan.tables scope := by
  rcases List.mem_append.1 hcolumn with hcolumn | hcolumn
  · obtain ⟨path, hpath, hnames⟩ := Outcome.exists_of_mem_right (names_of_compileIn h) hcolumn
    have horigin := List.mem_map_of_mem (f := scope.tableOf?) (crossed?_mem_origins h hpath)
    rw [map_tableOf?_origins h, hnames.tableOf?_eq] at horigin
    exact (List.mem_map_of_injective (Option.some_injective _)).1 horigin
  · obtain ⟨join, hjoin, hcolumn⟩ := List.mem_flatMap.1 hcolumn
    obtain ⟨pair, hpair, hcolumn⟩ := List.mem_flatMap.1 hcolumn
    obtain ⟨association, -, source, -, own, -, rfl⟩ :=
      Scope.mem_keyPairs_of_join (join_of_mem_joins h hjoin) hpair
    simp only [List.mem_cons, List.not_mem_nil, or_false] at hcolumn
    rcases hcolumn with rfl | rfl
    · exact List.mem_cons_of_mem _ (List.mem_map_of_mem hjoin)
    · exact List.mem_cons_self ..

/-- Requests that cross the same associations have the same joins. -/
theorem joins_eq_of_crossed {otherLimit : UInt64} {others : Operators} {other : Plan}
    (h : compileIn scope defaultLimit operators = .ok plan)
    (h' : compileIn scope otherLimit others = .ok other)
    (hcrossed : ∀ name, name ∈ others.crossed ↔ name ∈ operators.crossed) :
    other.joins = plan.joins := by
  have hsets : other.filter.associations.union other.sort.associations =
      plan.filter.associations.union plan.sort.associations := by
    refine NameSet.ext_of_mem fun name => ?_
    rw [mem_associations_of_compileIn h, mem_associations_of_compileIn h', hcrossed]
  obtain ⟨-, -, hjoins, -⟩ := compileIn_eq_ok.1 h
  obtain ⟨-, -, hjoins', -⟩ := compileIn_eq_ok.1 h'
  rw [hsets, hjoins] at hjoins'
  exact (Except.ok.inj hjoins').symm

end Plan

/-! ### Requests -/

/-- **Joins are what a request refers to.** The associations of the joins of a plan ascend
byte by byte, and they are those that the paths of filter and order cross; each join is of
the table of the entity that its association leads to. Every column of the filter, of the
order and of the conditions of the joins belongs to the entity's own table or to the table
of one of the joins. Any other request for the entity that crosses the same associations has
the same joins. -/
theorem joins_are_the_crossed_associations (catalog : Catalog) (defaultLimit : UInt64)
    (entityName : String) (operators : Operators) (plan : Plan)
    (h : compile catalog defaultLimit entityName operators.request = .ok plan) :
    ∃ scope, Scope.of? catalog entityName = .ok scope ∧
      (plan.joins.map (·.association)).Pairwise (fun a b => Names.bytes a < Names.bytes b) ∧
      (∀ name, name ∈ plan.joins.map (·.association) ↔ name ∈ operators.crossed) ∧
      (∀ join ∈ plan.joins, ∃ association target,
        scope.Leads join.association association target ∧ join.table = target.table) ∧
      (∀ column ∈ plan.columns ++ plan.keyColumns,
        column.table = scope.entity.table ∨ ∃ join ∈ plan.joins, column.table = join.table) ∧
      ∀ (otherLimit : UInt64) (others : Operators) (other : Plan),
        compile catalog otherLimit entityName others.request = .ok other →
          (∀ name, name ∈ others.crossed ↔ name ∈ operators.crossed) →
            other.joins = plan.joins := by
  rw [compile_request] at h
  obtain ⟨scope, hscope, hplan⟩ := Outcome.bind_eq_ok.1 h
  refine ⟨scope, hscope, ?_, fun name => mem_map_association_joins hplan, ?_, ?_, ?_⟩
  · rw [map_association_joins hplan]
    exact (NameSet.ascending _).imp Names.lt_iff_bytes_lt.1
  · intro join hjoin
    obtain ⟨association, target, hleads, heq⟩ := Scope.join_eq_ok.1 (join_of_mem_joins hplan hjoin)
    exact ⟨association, target, hleads, congrArg Join.table heq⟩
  · intro column hcolumn
    rcases List.mem_cons.1 (table_mem_tables hplan hcolumn) with htable | htable
    · exact .inl htable
    · obtain ⟨join, hjoin, heq⟩ := List.mem_map.1 htable
      exact .inr ⟨join, hjoin, heq.symm⟩
  · intro otherLimit others other hother hcrossed
    rw [compile_request, hscope] at hother
    exact joins_eq_of_crossed hplan hother hcrossed

/-- Tickets in projects; each has an author and an assignee, who are both users, and may have
a parent, which is a ticket. -/
def trackerEntities : NameMap Entity :=
  .ofList
    [("Project",
        { table := "projects"
          fields := .ofList [("name", "name")]
          associations := .empty }),
      ("Ticket",
        { table := "tickets"
          fields := .ofList [("title", "title"), ("closed", "closed_at")]
          associations := .ofList [("assignee", ⟨"User", ["id"], ["assignee_id"]⟩),
            ("author", ⟨"User", ["id"], ["author_id"]⟩),
            ("parent", ⟨"Ticket", ["id"], ["parent_id"]⟩),
            ("project", ⟨"Project", ["tenant", "code"], ["tenant", "project_code"]⟩)] }),
      ("User",
        { table := "users"
          fields := .ofList [("name", "name")]
          associations := .empty })]

/-- The schema of tickets. -/
def tracker : Schema := ⟨trackerEntities, by decide +kernel⟩

/-- The scope of the tickets. -/
def ticketScope : Scope :=
  ⟨tracker.catalog, "Ticket", (trackerEntities.get? "Ticket").get (by decide +kernel)⟩

theorem scope_ticket : Scope.of? tracker.catalog "Ticket" = .ok ticketScope := by
  have h : tracker.catalog.entity? "Ticket" = some ticketScope.entity := by
    rw [ticketScope, Option.some_get]
    rfl
  unfold Scope.of?
  rw [h]
  rfl

/-- A filter and an order that cross two associations, and an order that crosses the same
ones the other way around, have the same two joins. -/
theorem joins_are_the_crossed_associations_of_tickets :
    ∃ a b p q, compile tracker.catalog 20 "Ticket" (Operators.request a) = .ok p ∧
      compile tracker.catalog 50 "Ticket" (Operators.request b) = .ok q ∧
      a.crossed = ["project", "author", "project"] ∧ b.crossed = ["author", "project"] ∧
      p.joins.map (·.association) = ["author", "project"] ∧ q.joins = p.joins := by
  let a : Operators :=
    ⟨some ((Filter.null ⟨["project", "name"]⟩ true).and
      (.text ⟨["author", "name"]⟩ .eq "Ada" false)),
      some [⟨"project.name", false⟩, ⟨"title", false⟩], none, none⟩
  let b : Operators := ⟨none, some [⟨"author.name", true⟩, ⟨"project.name", true⟩], none, none⟩
  obtain ⟨p, hp⟩ : ∃ p, compileIn ticketScope 20 a = .ok p := ⟨_, rfl⟩
  obtain ⟨q, hq⟩ : ∃ q, compileIn ticketScope 50 b = .ok q := ⟨_, rfl⟩
  have ha := (compile_request_eq scope_ticket 20 a).trans hp
  have hb := (compile_request_eq scope_ticket 50 b).trans hq
  obtain ⟨scope, -, -, -, -, -, hjoins⟩ :=
    joins_are_the_crossed_associations tracker.catalog 20 "Ticket" a p ha
  have hcrossed : ∀ name, name ∈ b.crossed ↔ name ∈ a.crossed := by
    intro name
    show name ∈ ["author", "project"] ↔ name ∈ ["project", "author", "project"]
    grind
  refine ⟨a, b, p, q, ha, hb, rfl, rfl, ?_, hjoins 50 b q hb hcrossed⟩
  obtain rfl := Except.ok.inj hp
  rfl

end RequestSql
