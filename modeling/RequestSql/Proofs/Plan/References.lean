import RequestSql.Proofs.Plan.Compiled
import RequestSql.Proofs.Plan.Stages
import RequestSql.Proofs.Schema.Reach

/-!
# What a request refers to

The paths of a request are those of the leaves of its filter, from left to right, and then
those of the criteria of its order. In a plan every one of them has become a column, in the
same place, and the associations that they cross are the ones that the plan joins. This is
shown for each stage and then put together, so that facts about the columns and the joins of
a plan are facts about the paths of the request.

Key definitions: `Filter.paths`, `Operators.paths`, `Operators.crossed`, `Plan.columns`,
`Plan.keyColumns`, `Plan.Named`.
Key theorems: `compile_eq_ok`, `names_of_compileIn`, `mem_map_association_joins`,
`join_of_mem_joins`, `named_of_compileIn`.
-/

namespace RequestSql

/-! ### Paths and columns -/

/-- The paths of the leaves, from left to right. -/
def Filter.paths : Filter → List FieldPath
  | logical _ _ left right => left.paths ++ right.paths
  | text path _ _ _ => [path]
  | number path _ _ _ => [path]
  | null path _ => [path]
  | unsupported => []

/-- The path of a criterion. -/
def SortCriterion.path (criterion : SortCriterion) : FieldPath := .ofDotted criterion.tag

namespace Operators

/-- The paths of the filter. -/
def filterPaths (operators : Operators) : List FieldPath :=
  (operators.filter.map Filter.paths).getD []

/-- The paths of the order. -/
def sortPaths (operators : Operators) : List FieldPath :=
  (operators.sorting.getD []).map SortCriterion.path

/-- The paths of filter and order. -/
def paths (operators : Operators) : List FieldPath :=
  operators.filterPaths ++ operators.sortPaths

/-- The associations that these paths cross, as often as they do. -/
def crossed (operators : Operators) : List String :=
  operators.paths.filterMap FieldPath.crossed?

end Operators

/-- The columns of the leaves, from left to right. -/
def Predicate.columns : Predicate → List Column
  | compare column _ _ _ => [column]
  | isNull column _ => [column]
  | logical _ _ left right => left.columns ++ right.columns

namespace Plan

/-- The columns of the predicate. -/
def filterColumns (plan : Plan) : List Column :=
  (plan.filter.predicate.map Predicate.columns).getD []

/-- The columns of predicate and order. -/
def columns (plan : Plan) : List Column :=
  plan.filterColumns ++ plan.sort.terms.map (·.column)

/-- The columns on either side of the conditions of the joins. -/
def keyColumns (plan : Plan) : List Column :=
  plan.joins.flatMap fun join => join.keyPairs.flatMap fun pair => [pair.1, pair.2]

end Plan

/-- A path has become a column. -/
def Scope.Names (scope : Scope) (path : FieldPath) (column : Column) : Prop :=
  scope.Reaches path ⟨column, path.crossed?⟩

theorem Scope.names_of_resolve {scope : Scope} {path : FieldPath} {resolved : Resolved}
    (h : scope.resolve path = .ok resolved) : scope.Names path resolved.column := by
  have hreaches := resolve_iff_reaches.1 h
  rwa [Scope.Names, ← hreaches.association_eq]

/-- A path becomes one column only. -/
theorem Scope.Names.unique {scope : Scope} {path : FieldPath} {a b : Column}
    (ha : scope.Names path a) (hb : scope.Names path b) : a = b := by
  have h := (resolve_iff_reaches.2 ha).symm.trans (resolve_iff_reaches.2 hb)
  exact (Resolved.mk.inj (Except.ok.inj h)).1

/-! ### Filters -/

namespace Filter.Compiles

variable {scope : Scope} {f : Filter} {predicate : Predicate} {associations : NameSet}

/-- The columns of a predicate are those that the paths of its filter name. -/
theorem names (h : f.Compiles scope predicate associations) :
    List.Forall₂ scope.Names f.paths predicate.columns := by
  induction h with
  | logical _ _ ihl ihr => exact List.rel_append ihl ihr
  | text hresolved => exact .cons (Scope.names_of_resolve hresolved) .nil
  | number hresolved => exact .cons (Scope.names_of_resolve hresolved) .nil
  | null hresolved => exact .cons (Scope.names_of_resolve hresolved) .nil

theorem mem_ofList_association {path : FieldPath} {resolved : Resolved}
    (h : scope.resolve path = .ok resolved) {name : String} :
    name ∈ NameSet.ofList resolved.association.toList ↔
      name ∈ [path].filterMap FieldPath.crossed? := by
  rw [(Scope.resolve_iff_reaches.1 h).association_eq, NameSet.mem_ofList]
  cases hcrossed : path.crossed? <;> simp [hcrossed]

/-- The associations of a compiled filter are those that its paths cross. -/
theorem mem_associations (h : f.Compiles scope predicate associations) {name : String} :
    name ∈ associations ↔ name ∈ f.paths.filterMap FieldPath.crossed? := by
  induction h with
  | logical _ _ ihl ihr =>
    rw [NameSet.mem_union, ihl, ihr, paths, List.filterMap_append, List.mem_append]
  | text hresolved => exact mem_ofList_association hresolved
  | number hresolved => exact mem_ofList_association hresolved
  | null hresolved => exact mem_ofList_association hresolved

end Filter.Compiles

section Filter

variable {scope : Scope} {filter : Option Filter} {compiled : CompiledFilter}

theorem names_of_compileFilter (h : compileFilter scope filter = .ok compiled) :
    List.Forall₂ scope.Names ((filter.map Filter.paths).getD [])
      ((compiled.predicate.map Predicate.columns).getD []) := by
  cases filter with
  | none =>
    obtain rfl := Except.ok.inj h
    exact .nil
  | some f =>
    obtain ⟨predicate, associations, hcompiles, rfl⟩ := compileFilter_some_eq_ok.1 h
    exact hcompiles.names

theorem mem_associations_of_compileFilter (h : compileFilter scope filter = .ok compiled)
    {name : String} :
    name ∈ compiled.associations ↔
      name ∈ ((filter.map Filter.paths).getD []).filterMap FieldPath.crossed? := by
  cases filter with
  | none =>
    obtain rfl := Except.ok.inj h
    exact iff_of_false NameSet.not_mem_empty List.not_mem_nil
  | some f =>
    obtain ⟨predicate, associations, hcompiles, rfl⟩ := compileFilter_some_eq_ok.1 h
    exact hcompiles.mem_associations

end Filter

/-! ### Orders -/

section Order

variable {scope : Scope} {sorting : Option (List SortCriterion)} {compiled : CompiledSort}

/-- A criterion becomes a term with its column and its direction. -/
theorem Scope.orderTerm_eq_ok {criterion : SortCriterion} {term : OrderTerm}
    {association : Option String} :
    scope.orderTerm criterion = .ok (term, association) ↔
      scope.Names criterion.path term.column ∧ term.descending = criterion.descending ∧
        association = criterion.path.crossed? := by
  unfold Scope.orderTerm Scope.resolveDotted
  rw [Outcome.map_eq_ok]
  constructor
  · rintro ⟨resolved, hresolved, heq⟩
    obtain ⟨rfl, rfl⟩ := Prod.mk.inj heq
    have hreaches := resolve_iff_reaches.1 hresolved
    exact ⟨names_of_resolve hresolved, rfl, hreaches.association_eq⟩
  · obtain ⟨column, descending⟩ := term
    rintro ⟨hnames, rfl, rfl⟩
    exact ⟨_, resolve_iff_reaches.2 hnames, rfl⟩

/-- The terms of an order stand beside the criteria, with the associations that are crossed. -/
theorem compileSort_some_eq_ok {criteria : List SortCriterion} :
    compileSort scope (some criteria) = .ok compiled ↔
      ∃ terms, List.Forall₂ (fun criterion term => scope.orderTerm criterion = .ok term)
        criteria terms ∧ compiled = .ofTerms terms := by
  rw [compileSort, Outcome.map_eq_ok]
  simp only [Outcome.mapM_eq_ok, eq_comm (a := compiled)]

theorem names_of_compileSort (h : compileSort scope sorting = .ok compiled) :
    List.Forall₂ scope.Names ((sorting.getD []).map SortCriterion.path)
      (compiled.terms.map (·.column)) := by
  cases sorting with
  | none =>
    obtain rfl := Except.ok.inj h
    exact .nil
  | some criteria =>
    obtain ⟨terms, hterms, rfl⟩ := compileSort_some_eq_ok.1 h
    rw [CompiledSort.ofTerms, List.map_map, List.forall₂_map_left_iff,
      List.forall₂_map_right_iff]
    exact hterms.imp fun _ _ hterm => (Scope.orderTerm_eq_ok.1 hterm).1

/-- The associations of the terms are those that the paths of the criteria cross. -/
theorem crossed_of_orderTerms {criteria : List SortCriterion}
    {terms : List (OrderTerm × Option String)}
    (h : List.Forall₂ (fun criterion term => scope.orderTerm criterion = .ok term)
      criteria terms) :
    terms.filterMap (·.2) = (criteria.map SortCriterion.path).filterMap FieldPath.crossed? := by
  induction h with
  | nil => rfl
  | cons hterm _ ih =>
    rw [List.map_cons, List.filterMap_cons, List.filterMap_cons, ih,
      (Scope.orderTerm_eq_ok.1 hterm).2.2]

theorem mem_associations_of_compileSort (h : compileSort scope sorting = .ok compiled)
    {name : String} :
    name ∈ compiled.associations ↔
      name ∈ ((sorting.getD []).map SortCriterion.path).filterMap FieldPath.crossed? := by
  cases sorting with
  | none =>
    obtain rfl := Except.ok.inj h
    exact iff_of_false NameSet.not_mem_empty List.not_mem_nil
  | some criteria =>
    obtain ⟨terms, hterms, rfl⟩ := compileSort_some_eq_ok.1 h
    rw [CompiledSort.ofTerms, NameSet.mem_ofList, crossed_of_orderTerms hterms]
    rfl

end Order

/-! ### Joins -/

section Joins

variable {scope : Scope} {associations : NameSet} {joins : List Join}

/-- Every association of the set has its join, in order. -/
theorem assembleJoins_eq_ok :
    assembleJoins scope associations = .ok joins ↔
      List.Forall₂ (fun name join => scope.join name = .ok join) associations.toList joins :=
  Outcome.mapM_eq_ok

theorem Scope.association_of_join {name : String} {join : Join}
    (h : scope.join name = .ok join) : join.association = name := by
  obtain ⟨association, target, -, rfl⟩ := join_eq_ok.1 h
  rfl

theorem map_association_of_assembleJoins (h : assembleJoins scope associations = .ok joins) :
    joins.map (·.association) = associations.toList := by
  have hnames := (assembleJoins_eq_ok.1 h).imp fun _ _ => Scope.association_of_join
  rw [← List.forall₂_eq_eq_eq, List.forall₂_map_left_iff]
  exact hnames.flip

end Joins

/-! ### Plans -/

/-- A request that has a plan consists of operators, which have this plan in the scope of
the entity. -/
theorem compile_eq_ok {catalog : Catalog} {defaultLimit : UInt64} {entityName : String}
    {request : Request} {plan : Plan} :
    compile catalog defaultLimit entityName request = .ok plan ↔
      ∃ scope operators, Scope.of? catalog entityName = .ok scope ∧
        request = operators.request ∧ compileIn scope defaultLimit operators = .ok plan := by
  constructor
  · intro h
    obtain ⟨filter, sorting, pagination, selection⟩ := request
    obtain ⟨scope, hscope, h⟩ := Outcome.bind_eq_ok.1 h
    obtain ⟨f, hf, h⟩ := Outcome.bind_eq_ok.1 h
    obtain ⟨filter, hfilter, h⟩ := Outcome.bind_eq_ok.1 h
    obtain ⟨criteria, hcriteria, h⟩ := Outcome.bind_eq_ok.1 h
    obtain ⟨sort, hsort, h⟩ := Outcome.bind_eq_ok.1 h
    obtain ⟨joins, hjoins, h⟩ := Outcome.bind_eq_ok.1 h
    obtain ⟨page, hpage, h⟩ := Outcome.bind_eq_ok.1 h
    obtain ⟨selected, hselected, h⟩ := Outcome.bind_eq_ok.1 h
    obtain ⟨preloads, hpreloads, h⟩ := Outcome.bind_eq_ok.1 h
    obtain rfl := Except.ok.inj h
    obtain rfl := Outcome.mapError_eq_ok.1 hf
    obtain rfl := Outcome.mapError_eq_ok.1 hcriteria
    obtain rfl := Outcome.mapError_eq_ok.1 hpage
    obtain rfl := Outcome.mapError_eq_ok.1 hselected
    exact ⟨scope, ⟨f, criteria, page, selected⟩, hscope, rfl,
      compileIn_eq_ok.2 ⟨hfilter, hsort, hjoins, hpreloads, rfl⟩⟩
  · rintro ⟨scope, operators, hscope, rfl, h⟩
    rw [compile_request]
    exact Outcome.bind_eq_ok.2 ⟨scope, hscope, h⟩

section Plan

variable {scope : Scope} {defaultLimit : UInt64} {operators : Operators} {plan : Plan}

/-- Every path of the request has become a column of the plan, in the same place. -/
theorem names_of_compileIn (h : compileIn scope defaultLimit operators = .ok plan) :
    List.Forall₂ scope.Names operators.paths plan.columns := by
  obtain ⟨hfilter, hsort, -⟩ := compileIn_eq_ok.1 h
  exact List.rel_append (names_of_compileFilter hfilter) (names_of_compileSort hsort)

/-- The associations of filter and order are those that the paths cross. -/
theorem mem_associations_of_compileIn (h : compileIn scope defaultLimit operators = .ok plan)
    {name : String} :
    name ∈ plan.filter.associations.union plan.sort.associations ↔ name ∈ operators.crossed := by
  obtain ⟨hfilter, hsort, -⟩ := compileIn_eq_ok.1 h
  rw [NameSet.mem_union, mem_associations_of_compileFilter hfilter,
    mem_associations_of_compileSort hsort, Operators.crossed, Operators.paths,
    List.filterMap_append, List.mem_append]
  rfl

/-- The joins of a plan are in order of their associations, one for each. -/
theorem map_association_joins (h : compileIn scope defaultLimit operators = .ok plan) :
    plan.joins.map (·.association) =
      (plan.filter.associations.union plan.sort.associations).toList := by
  obtain ⟨-, -, hjoins, -⟩ := compileIn_eq_ok.1 h
  exact map_association_of_assembleJoins hjoins

/-- Every association that a path crosses has a join. -/
theorem mem_map_association_joins (h : compileIn scope defaultLimit operators = .ok plan)
    {name : String} : name ∈ plan.joins.map (·.association) ↔ name ∈ operators.crossed := by
  rw [map_association_joins h]
  exact mem_associations_of_compileIn h

/-- A join of a plan is the one for its association. -/
theorem join_of_mem_joins (h : compileIn scope defaultLimit operators = .ok plan) {join : Join}
    (hjoin : join ∈ plan.joins) : scope.join join.association = .ok join := by
  obtain ⟨-, -, hjoins, -⟩ := compileIn_eq_ok.1 h
  obtain ⟨name, -, hname⟩ := Outcome.exists_of_mem_right (assembleJoins_eq_ok.1 hjoins) hjoin
  rwa [Scope.association_of_join hname]

end Plan

/-! ### Plans of a schema -/

/-- The table and the columns of a join are identifiers, and there is a pair of them. -/
structure Join.Named (join : Join) : Prop where
  table : isIdentifier join.table = true
  pair : ∀ pair ∈ join.keyPairs, pair.1.Named ∧ pair.2.Named
  keyed : join.keyPairs ≠ []

/-- Every column of the plan and every table that it joins is an identifier. -/
structure Plan.Named (plan : Plan) : Prop where
  predicate : ∀ {p : Predicate}, plan.filter.predicate = some p → p.Named
  column : ∀ column ∈ plan.columns, column.Named
  join : ∀ join ∈ plan.joins, join.Named

theorem Scope.of?_eq_ok {catalog : Catalog} {entityName : String} {scope : Scope} :
    Scope.of? catalog entityName = .ok scope ↔
      ∃ entity, catalog.entity? entityName = some entity ∧
        scope = ⟨catalog, entityName, entity⟩ := by
  unfold Scope.of?
  cases catalog.entity? entityName with
  | none => simp
  | some entity => simp [eq_comm]

section Schema

variable {schema : Schema} {entityName : String} {scope : Scope}

/-- A join in a well-formed schema names identifiers. -/
theorem named_of_join (hscope : Scope.of? schema.catalog entityName = .ok scope) {name : String}
    {join : Join} (h : scope.join name = .ok join) : join.Named := by
  have hnamed := Scope.named_of_of? schema.catalog_named hscope
  obtain ⟨entity, hentity, rfl⟩ := Scope.of?_eq_ok.1 hscope
  obtain ⟨association, target, hleads, rfl⟩ := Scope.join_eq_ok.1 h
  have htarget := hnamed.catalog hleads.found
  have hassociation := schema.association_named hentity hleads.declared
  refine ⟨htarget.table, fun pair hpair => ?_, fun hnil => hassociation.keyed ?_⟩
  · obtain ⟨other, hdeclared, source, hsource, own, hown, rfl⟩ :=
      Scope.mem_keyPairs_of_join h hpair
    obtain rfl := Option.some.inj (hleads.declared.symm.trans hdeclared)
    exact ⟨⟨htarget.table, hassociation.key _ (List.mem_append_left _ hsource)⟩,
      ⟨hnamed.entity.table, hassociation.key _ (List.mem_append_right _ hown)⟩⟩
  · rcases List.zipWith_eq_nil_iff.1 hnil with hsource | hown
    · exact hsource
    · rw [← List.length_eq_zero_iff, hassociation.paired, hown, List.length_nil]

/-- A plan of a well-formed schema names identifiers. -/
theorem named_of_compileIn (hscope : Scope.of? schema.catalog entityName = .ok scope)
    {defaultLimit : UInt64} {operators : Operators} {plan : Plan}
    (h : compileIn scope defaultLimit operators = .ok plan) : plan.Named := by
  have hnamed := Scope.named_of_of? schema.catalog_named hscope
  refine ⟨fun {p} hp => ?_, fun column hcolumn => ?_, fun join hjoin => ?_⟩
  · obtain ⟨hfilter, -⟩ := compileIn_eq_ok.1 h
    cases hf : operators.filter with
    | none =>
      rw [hf] at hfilter
      rw [← Except.ok.inj hfilter] at hp
      cases hp
    | some f =>
      rw [hf] at hfilter
      obtain ⟨predicate, associations, hcompiles, heq⟩ := compileFilter_some_eq_ok.1 hfilter
      rw [heq] at hp
      obtain rfl := Option.some.inj hp
      exact hcompiles.named hnamed
  · obtain ⟨path, -, hnames⟩ := Outcome.exists_of_mem_right (names_of_compileIn h) hcolumn
    exact hnamed.resolve (Scope.resolve_iff_reaches.2 hnames)
  · exact named_of_join hscope (join_of_mem_joins h hjoin)

end Schema

end RequestSql
