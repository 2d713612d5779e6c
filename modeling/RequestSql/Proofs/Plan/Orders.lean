import RequestSql.Proofs.Plan.Leaves
import RequestSql.Proofs.Plan.PredicateText

/-!
# Orders criterion by criterion

Every criterion of an order is looked up by itself and becomes the term in its place, so an order
is told from its criteria one by one: what is repeated stays repeated, the first criterion whose
path leads nowhere is the one that is told, and two orders one after the other compile to the
terms of both. The path of a criterion is the path that a filter would have on the same text, so
the two lead to the same column.

That a term descends can be read off its text, for identifiers have no blanks in them.

Key definition: `Scope.StandsFor`.
Key theorems: `OrderTerm.ends_in_desc_iff`, `Scope.standsFor_iff`, `compileSort_eq_ok_iff`,
`compileSort_append`, `orders_follow_their_criteria`.
-/

namespace RequestSql

/-! ### The text of a term -/

/-- There is no blank in the text of a column. -/
theorem Column.Named.blank_not_mem {column : Column} (h : column.Named) :
    ' ' ∉ column.text.toList := by
  have hpart : ∀ {name : String}, isIdentifier name = true → ' ' ∉ name.toList :=
    fun hname hmem => absurd (isIdentifierPart_of_mem hname hmem) (by decide)
  rw [Column.toList_text, List.mem_append, List.mem_cons]
  rintro (htable | hpoint | hname)
  · exact hpart h.table htable
  · exact absurd hpoint (by decide)
  · exact hpart h.name hname

/-- The text of a term ends in the word for descending if and only if the term descends. -/
theorem OrderTerm.ends_in_desc_iff {term : OrderTerm} (h : term.column.Named) :
    (∃ front, term.text = front ++ " desc") ↔ term.descending = true := by
  cases hdescending : term.descending with
  | true => exact iff_of_true ⟨term.column.text, by rw [text, hdescending, if_pos rfl]⟩ rfl
  | false =>
    refine iff_of_false ?_ Bool.false_ne_true
    rintro ⟨front, htext⟩
    rw [text, hdescending, if_neg Bool.false_ne_true, String.append_empty] at htext
    refine h.blank_not_mem ?_
    rw [htext, String.toList_append]
    exact List.mem_append_right _ (by decide)

/-! ### Terms for criteria -/

/-- The term is what a criterion becomes: on the column to which the same path leads in a filter,
and with the direction of the criterion for everyone who reads its text. -/
structure Scope.StandsFor (scope : Scope) (criterion : SortCriterion) (term : OrderTerm) :
    Prop where
  resolved : ∃ association,
    scope.resolve (.ofDotted criterion.tag) = .ok ⟨term.column, association⟩
  filtered : ∀ (f : Filter) (leaf : Leaf FieldPath), f.leaves = [some leaf] →
    leaf.field = .ofDotted criterion.tag → ∃ compiled predicate,
      compileFilter scope (some f) = .ok compiled ∧ compiled.predicate = some predicate ∧
        predicate.leaves = [⟨term.column, leaf.test, leaf.negated⟩]
  descends : (∃ front, term.text = front ++ " desc") ↔ criterion.descending = true

section

variable {scope : Scope} {criteria : List SortCriterion}

theorem Scope.orderTerm_eq_error {criterion : SortCriterion} {e : CompileError} :
    scope.orderTerm criterion = .error e ↔ scope.resolveDotted criterion.tag = .error e :=
  Outcome.map_eq_error

theorem Scope.exists_orderTerm_iff {criterion : SortCriterion} :
    (∃ term, scope.orderTerm criterion = .ok term) ↔
      ∃ resolved, scope.resolveDotted criterion.tag = .ok resolved := by
  constructor
  · rintro ⟨term, hterm⟩
    obtain ⟨resolved, hresolved, -⟩ := Outcome.map_eq_ok.1 hterm
    exact ⟨resolved, hresolved⟩
  · rintro ⟨resolved, hresolved⟩
    exact ⟨_, Outcome.map_eq_ok.2 ⟨resolved, hresolved, rfl⟩⟩

/-- What a criterion becomes stands for it, and nothing else does. -/
theorem Scope.standsFor_iff (hscope : scope.Named) {criterion : SortCriterion}
    {term : OrderTerm} :
    scope.StandsFor criterion term ↔ ∃ association, scope.orderTerm criterion =
      .ok (term, association) := by
  constructor
  · rintro ⟨⟨association, hresolved⟩, -, hdescends⟩
    have hdirection : criterion.descending = term.descending := by
      rw [Bool.eq_iff_iff, ← hdescends, OrderTerm.ends_in_desc_iff (hscope.resolve hresolved)]
    refine ⟨association, Outcome.map_eq_ok.2 ⟨_, hresolved, ?_⟩⟩
    rw [hdirection]
  · rintro ⟨association, hterm⟩
    obtain ⟨resolved, hresolved, heq⟩ := Outcome.map_eq_ok.1 hterm
    obtain ⟨rfl, rfl⟩ := Prod.mk.inj heq
    refine ⟨⟨_, hresolved⟩, fun f leaf hf hleaf => ?_, ?_⟩
    · have hfield : scope.resolve leaf.field = .ok resolved := hleaf ▸ hresolved
      obtain ⟨compiled, predicate, hcompiled, hpredicate, hleaves, -⟩ :=
        compileFilter_of_leaf hf hfield
      exact ⟨compiled, predicate, hcompiled, hpredicate, hleaves⟩
    · exact OrderTerm.ends_in_desc_iff (hscope.resolve hresolved)

/-! ### Whole orders -/

theorem compileSort_eq_error {e : CompileError} :
    compileSort scope (some criteria) = .error e ↔
      ∃ before criterion after, criteria = before ++ criterion :: after ∧
        (∀ passed ∈ before, ∃ resolved, scope.resolveDotted passed.tag = .ok resolved) ∧
          scope.resolveDotted criterion.tag = .error e := by
  rw [compileSort, Outcome.map_eq_error, Outcome.mapM_eq_error]
  simp only [Scope.exists_orderTerm_iff, Scope.orderTerm_eq_error]

/-- The associations of an order are those that its criteria cross. -/
theorem mem_associations_iff_of_terms {terms : List (OrderTerm × Option String)}
    (hterms : List.Forall₂ (fun criterion term => scope.orderTerm criterion = .ok term)
      criteria terms) {name : String} :
    name ∈ (CompiledSort.ofTerms terms).associations ↔ ∃ criterion ∈ criteria, ∃ resolved,
      scope.resolveDotted criterion.tag = .ok resolved ∧ resolved.association = some name := by
  rw [CompiledSort.ofTerms, NameSet.mem_ofList]
  induction hterms with
  | nil => simp
  | @cons criterion term _ _ hterm _ ih =>
    obtain ⟨resolved, hresolved, rfl⟩ := Outcome.map_eq_ok.1 hterm
    have hhead : (∃ found, scope.resolveDotted criterion.tag = .ok found ∧
        found.association = some name) ↔ resolved.association = some name := by
      rw [hresolved]
      simp
    rw [List.exists_mem_cons_iff, hhead, ← ih]
    cases hassociation : resolved.association with
    | none => simp
    | some other => simp [eq_comm]

/-- An order compiles to the terms that stand for its criteria, each in its place. -/
theorem compileSort_eq_ok_iff (hscope : scope.Named) {compiled : CompiledSort} :
    compileSort scope (some criteria) = .ok compiled ↔
      List.Forall₂ scope.StandsFor criteria compiled.terms ∧
        ∀ name, name ∈ compiled.associations ↔ ∃ criterion ∈ criteria, ∃ resolved,
          scope.resolveDotted criterion.tag = .ok resolved ∧
            resolved.association = some name := by
  rw [compileSort_some_eq_ok]
  constructor
  · rintro ⟨terms, hterms, rfl⟩
    refine ⟨?_, fun name => mem_associations_iff_of_terms hterms⟩
    rw [CompiledSort.ofTerms, List.forall₂_map_right_iff]
    exact hterms.imp fun _ _ hterm => (Scope.standsFor_iff hscope).2 ⟨_, hterm⟩
  · rintro ⟨hstands, hassociations⟩
    obtain ⟨terms, hterms, hcolumns⟩ : ∃ terms,
        List.Forall₂ (fun criterion term => scope.orderTerm criterion = .ok term) criteria terms ∧
          terms.map (·.1) = compiled.terms := by
      clear hassociations
      generalize compiled.terms = columns at hstands
      induction hstands with
      | nil => exact ⟨[], .nil, rfl⟩
      | cons hterm _ ih =>
        obtain ⟨association, hterm⟩ := (Scope.standsFor_iff hscope).1 hterm
        obtain ⟨terms, hterms, rfl⟩ := ih
        exact ⟨_ :: terms, .cons hterm hterms, rfl⟩
    refine ⟨terms, hterms, ?_⟩
    obtain ⟨columns, associations⟩ := compiled
    obtain rfl : terms.map (·.1) = columns := hcolumns
    refine congrArg _ (NameSet.ext_of_mem fun name => ?_)
    rw [hassociations]
    exact (mem_associations_iff_of_terms hterms).symm

/-- Terms one after the other are the terms of two orders, with the associations of both. -/
theorem CompiledSort.ofTerms_append (as bs : List (OrderTerm × Option String)) :
    ofTerms (as ++ bs) =
      ⟨(ofTerms as).terms ++ (ofTerms bs).terms,
        (ofTerms as).associations.union (ofTerms bs).associations⟩ := by
  have hassociations : NameSet.ofList ((as ++ bs).filterMap (·.2)) =
      (NameSet.ofList (as.filterMap (·.2))).union (NameSet.ofList (bs.filterMap (·.2))) := by
    refine NameSet.ext_of_mem fun name => ?_
    rw [NameSet.mem_union, NameSet.mem_ofList, NameSet.mem_ofList, NameSet.mem_ofList,
      List.filterMap_append, List.mem_append]
  rw [ofTerms, List.map_append, hassociations]
  rfl

/-- **Two orders one after the other compile to both**, one after the other, or fail as the first
of them does that fails. -/
theorem compileSort_append (scope : Scope) (as bs : List SortCriterion) :
    compileSort scope (some (as ++ bs)) = do
      let a ← compileSort scope (some as)
      let b ← compileSort scope (some bs)
      return ⟨a.terms ++ b.terms, a.associations.union b.associations⟩ := by
  simp only [compileSort]
  rw [List.mapM_append]
  cases as.mapM scope.orderTerm with
  | error e => rfl
  | ok xs =>
    cases bs.mapM scope.orderTerm with
    | error e => rfl
    | ok ys => exact congrArg Except.ok (CompiledSort.ofTerms_append xs ys)

end

/-! ### The main result -/

/-- **Orders follow their criteria.** In a well-formed schema an order is refused if and only if
the path of one of its criteria leads nowhere, and the first such criterion is told. Otherwise it
has a term for every criterion, in the same place and as often as the criterion comes: on the
column that a filter on the same path tests, and with ` desc` at the end of its text if and only
if the criterion descends. Its associations are those on the ways to these columns. Two orders one
after the other compile to the terms of both and the associations of either. -/
theorem orders_follow_their_criteria (schema : Schema) (entityName : String) (scope : Scope)
    (h : Scope.of? schema.catalog entityName = .ok scope) :
    (∀ criteria e, compileSort scope (some criteria) = .error e ↔
      ∃ before criterion after, criteria = before ++ criterion :: after ∧
        (∀ passed ∈ before, ∃ resolved, scope.resolveDotted passed.tag = .ok resolved) ∧
          scope.resolveDotted criterion.tag = .error e) ∧
    (∀ criteria, (∃ compiled, compileSort scope (some criteria) = .ok compiled) ↔
      ∀ criterion ∈ criteria, ∃ resolved, scope.resolveDotted criterion.tag = .ok resolved) ∧
    (∀ criteria compiled, compileSort scope (some criteria) = .ok compiled ↔
      List.Forall₂ scope.StandsFor criteria compiled.terms ∧
        ∀ name, name ∈ compiled.associations ↔ ∃ criterion ∈ criteria, ∃ resolved,
          scope.resolveDotted criterion.tag = .ok resolved ∧ resolved.association = some name) ∧
    ∀ as bs, compileSort scope (some (as ++ bs)) = do
      let a ← compileSort scope (some as)
      let b ← compileSort scope (some bs)
      return ⟨a.terms ++ b.terms, a.associations.union b.associations⟩ := by
  have hscope : scope.Named := Scope.named_of_of? schema.catalog_named h
  refine ⟨fun criteria e => compileSort_eq_error, fun criteria => ?_,
    fun criteria compiled => compileSort_eq_ok_iff hscope, compileSort_append scope⟩
  simp only [← Scope.exists_orderTerm_iff]
  constructor
  · rintro ⟨compiled, hcompiled⟩ criterion hcriterion
    obtain ⟨terms, hterms, -⟩ := compileSort_some_eq_ok.1 hcompiled
    obtain ⟨term, -, hterm⟩ := Outcome.exists_of_mem_left hterms hcriterion
    exact ⟨term, hterm⟩
  · intro hcriteria
    obtain ⟨terms, hterms⟩ := Outcome.exists_mapM_eq_ok hcriteria
    exact ⟨_, Outcome.map_eq_ok.2 ⟨terms, hterms, rfl⟩⟩

/-- A criterion that comes twice has two terms. Of two more that lead nowhere the first is told,
although the other one breaks off at its first segment. -/
theorem orders_follow_their_criteria_of_tickets :
    let criteria : List SortCriterion :=
      [⟨"author.name", true⟩, ⟨"title", false⟩, ⟨"author.name", true⟩]
    (∃ compiled, compileSort ticketScope (some criteria) = .ok compiled ∧
      compiled.terms.map OrderTerm.text = ["users.name desc", "tickets.title", "users.name desc"] ∧
      List.Forall₂ ticketScope.StandsFor criteria compiled.terms ∧
      compiled.associations.toList = ["author"]) ∧
    compileSort ticketScope (some (criteria ++ [⟨"author.ghost", false⟩, ⟨"zone.name", false⟩])) =
      .error (.unknownField "User" "ghost") := by
  intro criteria
  obtain ⟨hrefused, hpasses, hcompiles, -⟩ :=
    orders_follow_their_criteria tracker "Ticket" ticketScope scope_ticket
  obtain ⟨compiled, hcompiled, htexts, hassociations⟩ : ∃ compiled,
      compileSort ticketScope (some criteria) = .ok compiled ∧
        compiled.terms.map OrderTerm.text =
          ["users.name desc", "tickets.title", "users.name desc"] ∧
        compiled.associations.toList = ["author"] :=
    ⟨_, rfl, by decide +kernel, by decide +kernel⟩
  have hghost : ticketScope.resolveDotted "author.ghost" =
      .error (.unknownField "User" "ghost") := by decide +kernel
  exact ⟨⟨compiled, hcompiled, htexts, ((hcompiles criteria compiled).1 hcompiled).1,
    hassociations⟩, (hrefused _ _).2
      ⟨criteria, _, _, rfl, (hpasses criteria).1 ⟨compiled, hcompiled⟩, hghost⟩⟩

end RequestSql
