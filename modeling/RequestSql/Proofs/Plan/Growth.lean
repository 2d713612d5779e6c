import RequestSql.Proofs.Plan.Joined

/-!
# Schemas that grow

A schema grows when entities are added, or fields and associations to its entities, and
nothing that was there is taken away or changed. Every name that could be looked up is found
as before, so every path leads where it led, and a request that had a plan has the same one.

A selection needs more than that. A single name in it stands for an association before it
stands for a field, so a new association could take the name of a field away from it; this is
what a well-formed schema rules out. And an inverted selection asks for all associations that
there are, so it does change with the schema.

Key definitions: `NameMap.GrowsTo`, `Entity.GrowsTo`, `Schema.GrowsTo`, `Scope.GrowsTo`.
Key theorems: `Scope.GrowsTo.resolve`, `Scope.GrowsTo.compileIn`, `plans_survive_growth`.
-/

namespace RequestSql

/-! ### Growth -/

/-- Every value of a map has its counterpart under the same name. -/
def NameMap.GrowsTo {α : Type} (R : α → α → Prop) (m grown : NameMap α) : Prop :=
  ∀ entry ∈ m.toList, ∃ value ∈ grown.get? entry.1, R entry.2 value

instance {α : Type} (R : α → α → Prop) [DecidableRel R] (m grown : NameMap α) :
    Decidable (m.GrowsTo R grown) :=
  inferInstanceAs (Decidable (∀ entry ∈ m.toList, _))

theorem NameMap.GrowsTo.get? {α : Type} {R : α → α → Prop} {m grown : NameMap α}
    (h : m.GrowsTo R grown) {name : String} {value : α} (hvalue : m.get? name = some value) :
    ∃ counterpart, grown.get? name = some counterpart ∧ R value counterpart :=
  h _ (mem_of_get? hvalue)

theorem NameMap.GrowsTo.get?_eq {α : Type} {m grown : NameMap α} (h : m.GrowsTo (· = ·) grown)
    {name : String} {value : α} (hvalue : m.get? name = some value) :
    grown.get? name = some value := by
  obtain ⟨counterpart, hcounterpart, rfl⟩ := h.get? hvalue
  exact hcounterpart

/-- An entity keeps its table and has at least the fields and associations that it had. -/
structure Entity.GrowsTo (entity grown : Entity) : Prop where
  table : entity.table = grown.table
  fields : entity.fields.GrowsTo (· = ·) grown.fields
  associations : entity.associations.GrowsTo (· = ·) grown.associations

instance (entity grown : Entity) : Decidable (entity.GrowsTo grown) :=
  decidable_of_iff
    (entity.table = grown.table ∧ entity.fields.GrowsTo (· = ·) grown.fields ∧
      entity.associations.GrowsTo (· = ·) grown.associations)
    ⟨fun ⟨htable, hfields, hassociations⟩ => ⟨htable, hfields, hassociations⟩,
      fun h => ⟨h.table, h.fields, h.associations⟩⟩

/-- A schema has at least the entities that it had, which have grown at most. -/
def Schema.GrowsTo (schema grown : Schema) : Prop :=
  schema.entities.GrowsTo Entity.GrowsTo grown.entities

instance (schema grown : Schema) : Decidable (schema.GrowsTo grown) :=
  inferInstanceAs (Decidable (schema.entities.GrowsTo Entity.GrowsTo grown.entities))

/-- A scope in a schema that has grown, where no name is a field and an association. -/
structure Scope.GrowsTo (scope grown : Scope) : Prop where
  entity : scope.entity.GrowsTo grown.entity
  catalog : ∀ {name : String} {entity : Entity}, scope.catalog.entity? name = some entity →
    ∃ counterpart, grown.catalog.entity? name = some counterpart ∧ entity.GrowsTo counterpart
  unambiguous : ∀ {name column : String}, grown.entity.fields.get? name = some column →
    grown.entity.associations.contains name = false

/-- In a well-formed schema the name of a field is not that of an association. -/
theorem Schema.not_contains_of_field (schema : Schema) {entityName : String} {entity : Entity}
    (hentity : schema.catalog.entity? entityName = some entity) {name column : String}
    (hfield : entity.fields.get? name = some column) :
    entity.associations.contains name = false := by
  cases hassociation : entity.associations.get? name with
  | none => rw [NameMap.contains, hassociation]; rfl
  | some association =>
    have hfault := schema.no_associationFault hentity hassociation
    obtain ⟨hfree, -⟩ := associationFault?_eq_none.1 hfault
    rw [NameMap.contains, hfield] at hfree
    cases hfree

theorem Schema.GrowsTo.exists_scope {schema grown : Schema} (h : schema.GrowsTo grown)
    {entityName : String} {scope : Scope}
    (hscope : Scope.of? schema.catalog entityName = .ok scope) :
    ∃ wider, Scope.of? grown.catalog entityName = .ok wider ∧ scope.GrowsTo wider := by
  obtain ⟨entity, hentity, rfl⟩ := Scope.of?_eq_ok.1 hscope
  obtain ⟨counterpart, hcounterpart, hgrows⟩ := h.get? hentity
  exact ⟨_, Scope.of?_eq_ok.2 ⟨counterpart, hcounterpart, rfl⟩, hgrows, h.get?,
    grown.not_contains_of_field hcounterpart⟩

/-! ### Paths -/

section Scope

variable {scope grown : Scope} (h : scope.GrowsTo grown)

include h

namespace Scope.GrowsTo

/-- An association leads to the same entity, which may have grown. -/
theorem leads {name : String} {association : Association} {target : Entity}
    (hleads : scope.Leads name association target) :
    ∃ counterpart, grown.Leads name association counterpart ∧ target.GrowsTo counterpart := by
  obtain ⟨counterpart, hfound, hgrows⟩ := h.catalog hleads.found
  exact ⟨counterpart, ⟨h.entity.associations.get?_eq hleads.declared, hfound⟩, hgrows⟩

theorem reaches {path : FieldPath} {resolved : Resolved} (hreaches : scope.Reaches path resolved) :
    grown.Reaches path resolved := by
  cases hreaches with
  | own hcolumn =>
    rw [h.entity.table]
    exact .own (h.entity.fields.get?_eq hcolumn)
  | across hleads hcolumn =>
    obtain ⟨counterpart, hcounterpart, hgrows⟩ := h.leads hleads
    rw [hgrows.table]
    exact .across hcounterpart (hgrows.fields.get?_eq hcolumn)

/-- A path leads where it led. -/
theorem resolve {path : FieldPath} {resolved : Resolved}
    (hresolve : scope.resolve path = .ok resolved) : grown.resolve path = .ok resolved :=
  resolve_iff_reaches.2 (h.reaches (resolve_iff_reaches.1 hresolve))

/-- A path of a selection needs the association that it needed. -/
theorem resolveSelection {dotted : String} {association : Option String}
    (hselection : scope.resolveSelection dotted = .ok association) :
    grown.resolveSelection dotted = .ok association := by
  unfold Scope.resolveSelection at hselection ⊢
  by_cases hdot : dotted.toList.contains '.' = true
  · rw [if_pos hdot] at hselection ⊢
    cases hresolve : scope.resolveDotted dotted with
    | error e => rw [hresolve] at hselection; cases hselection
    | ok resolved =>
      have hgrown : grown.resolveDotted dotted = .ok resolved := h.resolve hresolve
      rw [hgrown]
      rwa [hresolve] at hselection
  · rw [if_neg hdot] at hselection ⊢
    by_cases hassociation : scope.entity.associations.contains dotted = true
    · obtain ⟨declared, hdeclared⟩ := Option.isSome_iff_exists.1 hassociation
      have hgrown : grown.entity.associations.contains dotted = true :=
        Option.isSome_iff_exists.2 ⟨declared, h.entity.associations.get?_eq hdeclared⟩
      rw [if_pos hassociation] at hselection
      rwa [if_pos hgrown]
    · rw [if_neg hassociation] at hselection
      by_cases hfield : scope.entity.fields.contains dotted = true
      · obtain ⟨column, hcolumn⟩ := Option.isSome_iff_exists.1 hfield
        have hgrown := h.entity.fields.get?_eq hcolumn
        have hcontains : grown.entity.fields.contains dotted = true :=
          Option.isSome_iff_exists.2 ⟨column, hgrown⟩
        -- The name was a field, and no association has taken it.
        have hnone : ¬grown.entity.associations.contains dotted = true := by
          rw [h.unambiguous hgrown]
          exact Bool.false_ne_true
        rw [if_pos hfield] at hselection
        rwa [if_neg hnone, if_pos hcontains]
      · rw [if_neg hfield] at hselection
        cases hselection

/-! ### Stages -/

theorem compiles {f : Filter} {predicate : Predicate} {associations : NameSet}
    (hcompiles : f.Compiles scope predicate associations) :
    f.Compiles grown predicate associations := by
  induction hcompiles with
  | logical _ _ ihl ihr => exact .logical ihl ihr
  | text hresolved => exact .text (h.resolve hresolved)
  | number hresolved => exact .number (h.resolve hresolved)
  | null hresolved => exact .null (h.resolve hresolved)

theorem compileFilter {filter : Option Filter} {compiled : CompiledFilter}
    (hfilter : compileFilter scope filter = .ok compiled) :
    RequestSql.compileFilter grown filter = .ok compiled := by
  cases filter with
  | none => exact hfilter
  | some f =>
    obtain ⟨predicate, associations, hcompiles, rfl⟩ := compileFilter_some_eq_ok.1 hfilter
    exact compileFilter_some_eq_ok.2 ⟨predicate, associations, h.compiles hcompiles, rfl⟩

theorem orderTerm {criterion : SortCriterion} {term : OrderTerm × Option String}
    (hterm : scope.orderTerm criterion = .ok term) : grown.orderTerm criterion = .ok term := by
  obtain ⟨resolved, hresolved, rfl⟩ := Outcome.map_eq_ok.1 hterm
  exact Outcome.map_eq_ok.2 ⟨resolved, h.resolve hresolved, rfl⟩

theorem compileSort {sorting : Option (List SortCriterion)} {compiled : CompiledSort}
    (hsort : compileSort scope sorting = .ok compiled) :
    RequestSql.compileSort grown sorting = .ok compiled := by
  cases sorting with
  | none => exact hsort
  | some criteria =>
    obtain ⟨terms, hterms, rfl⟩ := compileSort_some_eq_ok.1 hsort
    exact compileSort_some_eq_ok.2 ⟨terms, hterms.imp fun _ _ => h.orderTerm, rfl⟩

theorem join {name : String} {join : Join} (hjoin : scope.join name = .ok join) :
    grown.join name = .ok join := by
  obtain ⟨association, target, hleads, rfl⟩ := join_eq_ok.1 hjoin
  obtain ⟨counterpart, hcounterpart, hgrows⟩ := h.leads hleads
  refine join_eq_ok.2 ⟨association, counterpart, hcounterpart, ?_⟩
  rw [hgrows.table, h.entity.table]

theorem assembleJoins {associations : NameSet} {joins : List Join}
    (hjoins : assembleJoins scope associations = .ok joins) :
    RequestSql.assembleJoins grown associations = .ok joins :=
  assembleJoins_eq_ok.2 ((assembleJoins_eq_ok.1 hjoins).imp fun _ _ => h.join)

theorem selected {path : String} {selected : Selected}
    (hselected : scope.selected path = .ok selected) : grown.selected path = .ok selected := by
  obtain ⟨association, hselection, rfl⟩ := Outcome.map_eq_ok.1 hselected
  exact Outcome.map_eq_ok.2 ⟨association, h.resolveSelection hselection, rfl⟩

/-- A selection that says what is wanted preloads what it preloaded. -/
theorem resolvePreloads {selection : Option FieldSelection} {preloads : List String}
    (hplain : ∀ s ∈ selection, s.inverted = false)
    (hpreloads : resolvePreloads scope selection = .ok preloads) :
    RequestSql.resolvePreloads grown selection = .ok preloads := by
  cases selection with
  | none => exact hpreloads
  | some selection =>
    obtain ⟨selected, hselected, rfl⟩ := Outcome.map_eq_ok.1 hpreloads
    have hgrown := (Outcome.mapM_eq_ok.1 hselected).imp fun _ _ => h.selected
    refine Outcome.map_eq_ok.2 ⟨selected, Outcome.mapM_eq_ok.2 hgrown, ?_⟩
    rw [hplain selection rfl]
    rfl

theorem compileIn {defaultLimit : UInt64} {operators : Operators} {plan : Plan}
    (hplain : ∀ s ∈ operators.selection, s.inverted = false)
    (hplan : compileIn scope defaultLimit operators = .ok plan) :
    RequestSql.compileIn grown defaultLimit operators = .ok plan := by
  obtain ⟨hfilter, hsort, hjoins, hpreloads, hwindow⟩ := compileIn_eq_ok.1 hplan
  exact compileIn_eq_ok.2 ⟨h.compileFilter hfilter, h.compileSort hsort, h.assembleJoins hjoins,
    h.resolvePreloads hplain hpreloads, hwindow⟩

end Scope.GrowsTo

end Scope

/-! ### Requests -/

/-- **Plans survive growth.** A request that has a plan in a schema has the same plan in every
schema that this one grows to, unless its selection is inverted. -/
theorem plans_survive_growth (schema grown : Schema) (hgrowth : schema.GrowsTo grown)
    (defaultLimit : UInt64) (entityName : String) (operators : Operators)
    (hplain : ∀ selection ∈ operators.selection, selection.inverted = false) (plan : Plan)
    (h : compile schema.catalog defaultLimit entityName operators.request = .ok plan) :
    compile grown.catalog defaultLimit entityName operators.request = .ok plan := by
  rw [compile_request] at h
  obtain ⟨scope, hscope, hplan⟩ := Outcome.bind_eq_ok.1 h
  obtain ⟨wider, hwider, hgrows⟩ := hgrowth.exists_scope hscope
  rw [compile_request_eq hwider]
  exact hgrows.compileIn hplain hplan

/-- Tickets that have got comments and a state, and users that have got an address. -/
def grownTrackerEntities : NameMap Entity :=
  .ofList
    [("Comment",
        { table := "comments"
          fields := .ofList [("text", "body")]
          associations := .ofList [("ticket", ⟨"Ticket", ["id"], ["ticket_id"]⟩)] }),
      ("Project",
        { table := "projects"
          fields := .ofList [("name", "name")]
          associations := .empty }),
      ("Ticket",
        { table := "tickets"
          fields := .ofList [("title", "title"), ("closed", "closed_at"), ("state", "state")]
          associations := .ofList [("assignee", ⟨"User", ["id"], ["assignee_id"]⟩),
            ("author", ⟨"User", ["id"], ["author_id"]⟩),
            ("comments", ⟨"Comment", ["ticket_id"], ["id"]⟩),
            ("parent", ⟨"Ticket", ["id"], ["parent_id"]⟩),
            ("project", ⟨"Project", ["tenant", "code"], ["tenant", "project_code"]⟩)] }),
      ("User",
        { table := "users"
          fields := .ofList [("mail", "address"), ("name", "name")]
          associations := .empty })]

/-- The schema of tickets with comments. -/
def grownTracker : Schema := ⟨grownTrackerEntities, by decide +kernel⟩

/-- A request on tickets with all four operators has the same plan when there are comments. -/
theorem plans_survive_growth_of_tickets :
    ∃ (operators : Operators) (plan : Plan), tracker.GrowsTo grownTracker ∧
      operators.selection = some ⟨["title", "project", "author.name"], false⟩ ∧
      compile tracker.catalog 20 "Ticket" operators.request = .ok plan ∧
      plan.preloads = ["project", "author"] ∧
      compile grownTracker.catalog 20 "Ticket" operators.request = .ok plan := by
  let operators : Operators :=
    ⟨some ((Filter.null ⟨["closed"]⟩ true).or (.text ⟨["author", "name"]⟩ .eq "Ada" true)),
      some [⟨"project.name", true⟩, ⟨"title", false⟩], some ⟨40, 0⟩,
      some ⟨["title", "project", "author.name"], false⟩⟩
  obtain ⟨plan, hplan⟩ : ∃ plan, compileIn ticketScope 20 operators = .ok plan := ⟨_, rfl⟩
  have hsmall := (compile_request_eq scope_ticket 20 operators).trans hplan
  have hgrowth : tracker.GrowsTo grownTracker := by decide +kernel
  have hplain : ∀ selection ∈ operators.selection, selection.inverted = false := by
    intro selection hselection
    obtain rfl := Option.some.inj hselection
    rfl
  refine ⟨operators, plan, hgrowth, rfl, hsmall, ?_,
    plans_survive_growth tracker grownTracker hgrowth 20 "Ticket" operators hplain plan hsmall⟩
  obtain rfl := Except.ok.inj hplan
  rfl

end RequestSql
