import RequestSql.Proofs.Plan.Joined
import RequestSql.Proofs.Plan.References

/-!
# Why a request is refused

A path is refused because a name on it is not there, because it crosses more than one
association, or because an association on it leads to an entity that the catalog lacks; a
filter also because a node of it is of an unknown kind. Nothing else is refused. Joins are
not: the association that a path has crossed is looked up once more, in the same entity and
the same catalog, so it is there. And the associations of a well-formed schema all lead to
entities of the schema, so there the only entity that can be missing is the one that the
request is for.

Key definitions: `Catalog.PathFault`, `Catalog.Closed`.
Key theorems: `Scope.pathFault_of_resolve`, `exists_assembleJoins`, `compileIn_eq_error`,
`Schema.catalog_closed`, `refusals_blame_the_request`.
-/

namespace RequestSql

/-! ### Paths -/

/-- An entity of the catalog has this association. -/
def Catalog.Declares (catalog : Catalog) (association : Association) : Prop :=
  ∃ entityName entity name, catalog.entity? entityName = some entity ∧
    entity.associations.get? name = some association

/-- Why a path leads nowhere. -/
inductive Catalog.PathFault (catalog : Catalog) : CompileError → Prop where
  | unknownField (entity field : String) : PathFault catalog (.unknownField entity field)
  | unsupportedPath (path : String) : PathFault catalog (.unsupportedPath path)
  /-- An association leads to an entity that is missing. -/
  | dangling {association : Association} :
      catalog.Declares association → catalog.entity? association.entity = none →
        PathFault catalog (.unknownEntity association.entity)

namespace Scope

/-- The entity of the scope is the one that the catalog has under its name. -/
def Listed (scope : Scope) : Prop := scope.catalog.entity? scope.entityName = some scope.entity

theorem listed_of_of? {catalog : Catalog} {entityName : String} {scope : Scope}
    (h : Scope.of? catalog entityName = .ok scope) : scope.Listed := by
  obtain ⟨entity, hentity, rfl⟩ := Scope.of?_eq_ok.1 h
  exact hentity

/-- Following associations fails at one that is not declared or leads nowhere. -/
theorem pathFault_of_follow {catalog : Catalog} {hops : List String} {name : String}
    {entity : Entity} {e : CompileError} (hentity : catalog.entity? name = some entity)
    (h : follow catalog name entity hops = .error e) : catalog.PathFault e := by
  induction hops generalizing name entity with
  | nil => cases h
  | cons hop hops ih =>
    rw [follow] at h
    cases hassociation : entity.associations.get? hop with
    | none =>
      rw [hassociation] at h
      obtain rfl := Except.error.inj h
      exact .unknownField name hop
    | some association =>
      cases hnext : catalog.entity? association.entity with
      | none =>
        simp only [hassociation, hnext] at h
        obtain rfl := Except.error.inj h
        exact .dangling ⟨name, entity, hop, hentity, hassociation⟩ hnext
      | some next =>
        simp only [hassociation, hnext] at h
        exact ih hnext h

section Fault

variable {scope : Scope} (hscope : scope.Listed) {e : CompileError}

include hscope

theorem pathFault_of_resolve {path : FieldPath} (h : scope.resolve path = .error e) :
    scope.catalog.PathFault e := by
  unfold resolve at h
  split at h
  · obtain rfl := Except.error.inj h
    exact .unknownField scope.entityName ""
  · next field _ =>
    simp only at h
    split at h
    · next hfollow =>
      obtain rfl := Except.error.inj h
      exact pathFault_of_follow hscope hfollow
    · next name entity _ =>
      split at h
      · obtain rfl := Except.error.inj h
        exact .unsupportedPath path.toDotted
      · unfold columnOf at h
        cases hcolumn : entity.fields.get? field with
        | some column => rw [hcolumn] at h; cases h
        | none =>
          rw [hcolumn] at h
          obtain rfl := Except.error.inj h
          exact .unknownField name field

theorem pathFault_of_resolveSelection {dotted : String}
    (h : scope.resolveSelection dotted = .error e) : scope.catalog.PathFault e := by
  unfold resolveSelection at h
  split at h
  · split at h
    · next hresolve =>
      obtain rfl := Except.error.inj h
      exact pathFault_of_resolve hscope hresolve
    · cases h
  · split at h
    · cases h
    · split at h
      · cases h
      · obtain rfl := Except.error.inj h
        exact .unknownField scope.entityName dotted

/-! ### Stages -/

theorem pathFault_of_condition {path : FieldPath} {leaf : Column → Predicate}
    (h : scope.condition path leaf = .error e) : scope.catalog.PathFault e := by
  unfold condition at h
  split at h
  · next hresolve =>
    obtain rfl := Except.error.inj h
    exact pathFault_of_resolve hscope hresolve
  · cases h

/-- A filter is refused for one of its paths, or for a node of an unknown kind. -/
theorem fault_of_compile {f : Filter} (h : f.compile scope = .error e) :
    scope.catalog.PathFault e ∨ e = .unsupportedNode := by
  induction f with
  | logical combinator negated left right ihl ihr =>
    rw [Filter.compile] at h
    cases hl : left.compile scope with
    | error el =>
      rw [hl] at h
      obtain rfl := Except.error.inj h
      exact ihl hl
    | ok l =>
      cases hr : right.compile scope with
      | error er =>
        rw [hl, hr] at h
        obtain rfl := Except.error.inj h
        exact ihr hr
      | ok r => rw [hl, hr] at h; cases h
  | text path op value negated => exact .inl (pathFault_of_condition hscope h)
  | number path op value negated => exact .inl (pathFault_of_condition hscope h)
  | null path negated => exact .inl (pathFault_of_condition hscope h)
  | unsupported => exact .inr (Except.error.inj h).symm

theorem fault_of_compileFilter {filter : Option Filter}
    (h : compileFilter scope filter = .error e) :
    scope.catalog.PathFault e ∨ e = .unsupportedNode := by
  cases filter with
  | none => cases h
  | some f =>
    rw [compileFilter] at h
    cases hf : f.compile scope with
    | ok compiled => rw [hf] at h; cases h
    | error ef =>
      rw [hf] at h
      obtain rfl := Except.error.inj h
      exact fault_of_compile hscope hf

theorem pathFault_of_compileSort {sorting : Option (List SortCriterion)}
    (h : compileSort scope sorting = .error e) : scope.catalog.PathFault e := by
  cases sorting with
  | none => cases h
  | some criteria =>
    have hterms := Outcome.map_eq_error.1 h
    obtain ⟨criterion, -, hterm⟩ := Outcome.exists_mem_of_mapM_eq_error hterms
    exact pathFault_of_resolve hscope (Outcome.map_eq_error.1 hterm)

theorem pathFault_of_resolvePreloads {selection : Option FieldSelection}
    (h : resolvePreloads scope selection = .error e) : scope.catalog.PathFault e := by
  cases selection with
  | none => cases h
  | some selection =>
    have hselected := Outcome.map_eq_error.1 h
    obtain ⟨path, -, hpath⟩ := Outcome.exists_mem_of_mapM_eq_error hselected
    exact pathFault_of_resolveSelection hscope (Outcome.map_eq_error.1 hpath)

end Fault

end Scope

/-! ### Joins -/

section Joins

variable {scope : Scope}

theorem Scope.Leads.exists_join {name : String} {association : Association} {target : Entity}
    (h : scope.Leads name association target) : ∃ join, scope.join name = .ok join :=
  ⟨_, join_eq_ok.2 ⟨association, target, h, rfl⟩⟩

/-- What is crossed by a path that has become a column can be joined. -/
theorem Scope.exists_join_of_names {paths : List FieldPath} {columns : List Column}
    (h : List.Forall₂ scope.Names paths columns) {name : String}
    (hname : name ∈ paths.filterMap FieldPath.crossed?) : ∃ join, scope.join name = .ok join := by
  obtain ⟨path, hpath, hcrossed⟩ := List.mem_filterMap.1 hname
  obtain ⟨column, -, hreaches⟩ := Outcome.exists_of_mem_left h hpath
  obtain ⟨association, target, hleads⟩ := hreaches.leads hcrossed
  exact hleads.exists_join

/-- What filter and order have crossed can be joined. -/
theorem exists_assembleJoins {filter : Option Filter} {sorting : Option (List SortCriterion)}
    {compiledFilter : CompiledFilter} {compiledSort : CompiledSort}
    (hfilter : compileFilter scope filter = .ok compiledFilter)
    (hsort : compileSort scope sorting = .ok compiledSort) :
    ∃ joins, assembleJoins scope (compiledFilter.associations.union compiledSort.associations) =
      .ok joins := by
  refine Outcome.exists_mapM_eq_ok fun name hname => ?_
  rcases NameSet.mem_union.1 hname with hname | hname
  · have hcrossed := (mem_associations_of_compileFilter hfilter).1 hname
    exact Scope.exists_join_of_names (names_of_compileFilter hfilter) hcrossed
  · have hcrossed := (mem_associations_of_compileSort hsort).1 hname
    exact Scope.exists_join_of_names (names_of_compileSort hsort) hcrossed

end Joins

/-! ### Requests -/

/-- Operators are refused for their filter, their order or their selection. -/
theorem compileIn_eq_error {scope : Scope} {defaultLimit : UInt64} {operators : Operators}
    {e : CompileError} (h : compileIn scope defaultLimit operators = .error e) :
    compileFilter scope operators.filter = .error e ∨
      compileSort scope operators.sorting = .error e ∨
        resolvePreloads scope operators.selection = .error e := by
  rcases Outcome.bind_eq_error.1 h with h | ⟨filter, hfilter, h⟩
  · exact .inl h
  rcases Outcome.bind_eq_error.1 h with h | ⟨sort, hsort, h⟩
  · exact .inr (.inl h)
  rcases Outcome.bind_eq_error.1 h with h | ⟨joins, -, h⟩
  · obtain ⟨joins, hjoins⟩ := exists_assembleJoins hfilter hsort
    rw [hjoins] at h
    cases h
  rcases Outcome.bind_eq_error.1 h with h | ⟨preloads, -, h⟩
  · exact .inr (.inr h)
  · cases h

theorem fault_of_compileIn {scope : Scope} (hscope : scope.Listed) {defaultLimit : UInt64}
    {operators : Operators} {e : CompileError}
    (h : compileIn scope defaultLimit operators = .error e) :
    scope.catalog.PathFault e ∨ e = .unsupportedNode := by
  rcases compileIn_eq_error h with h | h | h
  · exact Scope.fault_of_compileFilter hscope h
  · exact .inl (Scope.pathFault_of_compileSort hscope h)
  · exact .inl (Scope.pathFault_of_resolvePreloads hscope h)

/-- A request is refused because its entity is missing, or for one of its paths or nodes. -/
theorem fault_of_compile_request {catalog : Catalog} {defaultLimit : UInt64} {entityName : String}
    {operators : Operators} {e : CompileError}
    (h : compile catalog defaultLimit entityName operators.request = .error e) :
    catalog.entity? entityName = none ∧ e = .unknownEntity entityName ∨
      (catalog.entity? entityName).isSome ∧ (catalog.PathFault e ∨ e = .unsupportedNode) := by
  rw [compile_request] at h
  rcases Outcome.bind_eq_error.1 h with h | ⟨scope, hscope, h⟩
  · unfold Scope.of? at h
    split at h
    · cases h
    · next hentity => exact .inl ⟨hentity, (Except.error.inj h).symm⟩
  · have hlisted := Scope.listed_of_of? hscope
    have hfault := fault_of_compileIn hlisted h
    obtain ⟨entity, hentity, rfl⟩ := Scope.of?_eq_ok.1 hscope
    exact .inr ⟨Option.isSome_iff_exists.2 ⟨entity, hentity⟩, hfault⟩

/-! ### Schemas -/

/-- Every association leads to an entity. -/
def Catalog.Closed (catalog : Catalog) : Prop :=
  ∀ association, catalog.Declares association → (catalog.entity? association.entity).isSome

/-- The associations of a well-formed schema stay inside the schema. -/
theorem Schema.catalog_closed (schema : Schema) : schema.catalog.Closed := by
  rintro association ⟨entityName, entity, name, hentity, hassociation⟩
  have hfault := schema.no_associationFault hentity hassociation
  obtain ⟨-, hcontains, -⟩ := associationFault?_eq_none.1 hfault
  exact hcontains

/-- In a closed catalog no path dangles. -/
theorem Catalog.Closed.cases_of_pathFault {catalog : Catalog} (hclosed : catalog.Closed)
    {e : CompileError} (h : catalog.PathFault e) :
    (∃ entity field, e = .unknownField entity field) ∨ ∃ path, e = .unsupportedPath path := by
  cases h with
  | unknownField entity field => exact .inl ⟨entity, field, rfl⟩
  | unsupportedPath path => exact .inr ⟨path, rfl⟩
  | dangling hdeclares hmissing =>
    have hfound := hclosed _ hdeclares
    rw [hmissing] at hfound
    cases hfound

/-- **Refusals blame the request.** In any catalog, a request is never refused for an
association that has no join: once filter and order have been compiled, each association of
either is joined, in order. In a well-formed schema a request for an entity that is missing is
refused as such, and one for an entity that is there only because of a field that is not, a
path that is too long, or a node of an unknown kind. -/
theorem refusals_blame_the_request (defaultLimit : UInt64) (entityName : String)
    (operators : Operators) :
    (∀ catalog : Catalog,
      (∀ entity association, compile catalog defaultLimit entityName operators.request ≠
        .error (.unknownAssociation entity association)) ∧
      ∀ scope filter sort, Scope.of? catalog entityName = .ok scope →
        compileFilter scope operators.filter = .ok filter →
        compileSort scope operators.sorting = .ok sort →
          ∃ joins, assembleJoins scope (filter.associations.union sort.associations) =
              .ok joins ∧
            joins.map (·.association) = (filter.associations.union sort.associations).toList) ∧
    ∀ (schema : Schema) (e : CompileError),
      compile schema.catalog defaultLimit entityName operators.request = .error e →
        schema.entities.contains entityName = false ∧ e = .unknownEntity entityName ∨
        schema.entities.contains entityName = true ∧
          ((∃ entity field, e = .unknownField entity field) ∨
            (∃ path, e = .unsupportedPath path) ∨ e = .unsupportedNode) := by
  refine ⟨fun catalog => ⟨fun entity association h => ?_, ?_⟩, fun schema e h => ?_⟩
  · rcases fault_of_compile_request h with ⟨-, h⟩ | ⟨-, h | h⟩
    · cases h
    · cases h
    · cases h
  · intro scope filter sort _ hfilter hsort
    obtain ⟨joins, hjoins⟩ := exists_assembleJoins hfilter hsort
    exact ⟨joins, hjoins, map_association_of_assembleJoins hjoins⟩
  · rcases fault_of_compile_request h with ⟨hmissing, he⟩ | ⟨hfound, hfault⟩
    · exact .inl ⟨by rw [NameMap.contains, show schema.entities.get? _ = none from hmissing]; rfl,
        he⟩
    · refine .inr ⟨hfound, ?_⟩
      rcases hfault with hpath | hnode
      · exact (schema.catalog_closed.cases_of_pathFault hpath).imp_right .inl
      · exact .inr (.inr hnode)

/-- A filter and an order that cross two associations of a ticket are joined, although the
selection is refused for a field that the other entity lacks; the same request for an entity
that is none is refused for the entity. -/
theorem refusals_blame_the_request_of_tickets :
    ∃ (operators : Operators) (filter : CompiledFilter) (sort : CompiledSort)
      (joins : List Join),
      compileFilter ticketScope operators.filter = .ok filter ∧
      compileSort ticketScope operators.sorting = .ok sort ∧
      assembleJoins ticketScope (filter.associations.union sort.associations) = .ok joins ∧
      joins.map (·.association) = ["author", "project"] ∧
      compile tracker.catalog 20 "Ticket" operators.request =
        .error (.unknownField "User" "mail") ∧
      compile tracker.catalog 20 "Item" operators.request = .error (.unknownEntity "Item") := by
  let operators : Operators :=
    ⟨some ((Filter.null ⟨["project", "name"]⟩ true).and
      (.text ⟨["author", "name"]⟩ .eq "Ada" false)),
      some [⟨"project.name", false⟩], none, some ⟨["assignee", "author.mail"], false⟩⟩
  obtain ⟨filter, hfilter⟩ : ∃ f, compileFilter ticketScope operators.filter = .ok f := ⟨_, rfl⟩
  obtain ⟨sort, hsort⟩ : ∃ s, compileSort ticketScope operators.sorting = .ok s := ⟨_, rfl⟩
  obtain ⟨e, he⟩ : ∃ e, compile tracker.catalog 20 "Item" operators.request = .error e :=
    ⟨_, rfl⟩
  obtain ⟨joins, hjoins, hnames⟩ :=
    ((refusals_blame_the_request 20 "Ticket" operators).1 tracker.catalog).2 ticketScope filter
      sort scope_ticket hfilter hsort
  have hsorted : (filter.associations.union sort.associations).toList = ["author", "project"] := by
    rw [← Except.ok.inj hfilter, ← Except.ok.inj hsort]
    decide +kernel
  have hrefused : compile tracker.catalog 20 "Ticket" operators.request =
      .error (.unknownField "User" "mail") :=
    (compile_request_eq scope_ticket 20 operators).trans rfl
  have hmissing : e = .unknownEntity "Item" := by
    rcases (refusals_blame_the_request 20 "Item" operators).2 tracker e he with
      ⟨-, h⟩ | ⟨hfound, -⟩
    · exact h
    · exact absurd hfound (by decide +kernel)
  exact ⟨operators, filter, sort, joins, hfilter, hsort, hjoins, hnames.trans hsorted, hrefused,
    hmissing ▸ he⟩

end RequestSql
