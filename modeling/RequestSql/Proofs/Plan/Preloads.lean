import RequestSql.Proofs.Filter.Path
import RequestSql.Proofs.Plan.Leaves
import RequestSql.Proofs.Plan.Refusals

/-!
# What is loaded along

Each path of a selection is judged by itself: it is a field of the entity, or it needs an
association, which it names if it is a single segment and crosses if it has two. So a selection is
refused for the first of its paths that leads nowhere, and otherwise what is loaded along can be
told from the paths one by one. A plain selection loads what its paths need, in the order in which
it is first needed. An inverted one loads all associations of the entity but those that are named
outright, so neither the order of its paths nor how often one of them comes makes a difference.
Where all paths are single segments, the two divide the associations between them.

Key definitions: `FieldPath.Single`, `Scope.needed?`, `Scope.CrossedAlone`.
Key theorems: `pairwise_firstAppearances`, `Scope.resolveSelection_eq_needed?`,
`resolvePreloads_eq_ok`, `preloads_are_what_is_selected`.
-/

namespace RequestSql

/-! ### Paths of a selection -/

/-- The written path is a single segment. -/
def FieldPath.Single (text : String) : Prop := (FieldPath.ofDotted text).segments = [text]

theorem FieldPath.single_of_not_mem {text : String} (h : '.' ∉ text.toList) : Single text :=
  segments_ofDotted_of_not_mem h

/-- A path with a dot has two segments at least. -/
theorem FieldPath.one_lt_length_of_mem {text : String} (h : '.' ∈ text.toList) :
    1 < (ofDotted text).segments.length := by
  have hdots := List.count_pos_iff.2 h
  rw [length_segments_ofDotted]
  omega

theorem FieldPath.not_contains_iff_single {text : String} :
    (!text.toList.contains '.') = true ↔ Single text := by
  rw [Bool.not_eq_true', ← Bool.not_eq_true, List.contains_iff_mem]
  refine ⟨single_of_not_mem, fun h hmem => ?_⟩
  have hlength := one_lt_length_of_mem hmem
  rw [h] at hlength
  exact Nat.lt_irrefl 1 hlength

namespace Scope

/-- The association that a path of a selection names, as a single segment, or crosses. -/
def needed? (scope : Scope) (path : String) : Option String :=
  match (FieldPath.ofDotted path).segments with
  | [name] => if scope.entity.associations.contains name then some name else none
  | [association, _] => some association
  | _ => none

variable {scope : Scope}

theorem needed?_of_single {path : String} (h : FieldPath.Single path) :
    scope.needed? path = if scope.entity.associations.contains path then some path else none := by
  rw [needed?, h]

theorem needed?_eq_some_of_single {path name : String} (h : FieldPath.Single path) :
    scope.needed? path = some name ↔
      path = name ∧ scope.entity.associations.contains name = true := by
  rw [needed?_of_single h, Option.ite_none_right_eq_some, Option.some.injEq]
  constructor
  · rintro ⟨hcontains, rfl⟩
    exact ⟨rfl, hcontains⟩
  · rintro ⟨rfl, hcontains⟩
    exact ⟨hcontains, rfl⟩

theorem needed?_of_mem {path : String} (h : '.' ∈ path.toList) :
    scope.needed? path = (FieldPath.ofDotted path).crossed? := by
  have hlength := FieldPath.one_lt_length_of_mem h
  unfold needed? FieldPath.crossed?
  match (FieldPath.ofDotted path).segments, hlength with
  | [_, _], _ => rfl
  | _ :: _ :: _ :: _, _ => rfl

theorem resolveSelection_of_mem {path : String} (h : '.' ∈ path.toList) :
    scope.resolveSelection path = (scope.resolveDotted path).map (·.association) := by
  rw [resolveSelection, if_pos (List.contains_iff_mem.2 h)]
  cases scope.resolveDotted path <;> rfl

/-- What a path of a selection resolves to is the association that it needs. -/
theorem resolveSelection_eq_needed? {path : String} {association : Option String}
    (h : scope.resolveSelection path = .ok association) : association = scope.needed? path := by
  by_cases hdot : '.' ∈ path.toList
  · rw [resolveSelection_of_mem hdot] at h
    obtain ⟨resolved, hresolved, rfl⟩ := Outcome.map_eq_ok.1 h
    rw [needed?_of_mem hdot, (resolve_iff_reaches.1 hresolved).association_eq]
  · rw [resolveSelection, if_neg (mt List.contains_iff_mem.1 hdot)] at h
    rw [needed?_of_single (FieldPath.single_of_not_mem hdot)]
    by_cases hcontains : scope.entity.associations.contains path = true
    · rw [if_pos hcontains] at h ⊢
      exact (Except.ok.inj h).symm
    · rw [if_neg hcontains] at h ⊢
      split at h
      · exact (Except.ok.inj h).symm
      · cases h

end Scope

/-! ### First appearances -/

/-- An item comes before another one if its first place is before that of the other. -/
theorem pairwise_firstAppearances (items : List (Option String)) :
    (firstAppearances (items.filterMap id)).Pairwise fun a b =>
      items.idxOf (some a) < items.idxOf (some b) := by
  induction items with
  | nil => exact .nil
  | cons item items ih =>
    cases item with
    | none =>
      refine ih.imp fun {a b} hless => ?_
      rw [List.idxOf_cons_ne _ (by simp), List.idxOf_cons_ne _ (by simp)]
      exact Nat.succ_lt_succ hless
    | some name =>
      have hne : ∀ other ∈ (firstAppearances (items.filterMap id)).filter (· != name),
          some name ≠ some other := fun other hother heq =>
        bne_iff_ne.1 (List.mem_filter.1 hother).2 (Option.some.inj heq).symm
      refine List.pairwise_cons.2 ⟨fun other hother => ?_, ?_⟩
      · rw [List.idxOf_cons_self, List.idxOf_cons_ne _ (hne other hother)]
        exact Nat.succ_pos _
      · refine (ih.filter (· != name)).imp_of_mem fun {a b} ha hb hless => ?_
        rw [List.idxOf_cons_ne _ (hne a ha), List.idxOf_cons_ne _ (hne b hb)]
        exact Nat.succ_lt_succ hless

/-! ### Selections -/

section Selection

variable {scope : Scope} {fields : List String}

/-- What a path that leads somewhere needs, and whether it is a single segment. -/
def Scope.choice (scope : Scope) (path : String) : Selected :=
  ⟨scope.needed? path, !path.toList.contains '.'⟩

theorem Scope.selected_eq_ok {path : String} {selected : Selected} :
    scope.selected path = .ok selected ↔
      (∃ association, scope.resolveSelection path = .ok association) ∧
        selected = scope.choice path := by
  rw [Scope.selected, Outcome.map_eq_ok]
  constructor
  · rintro ⟨association, hresolved, rfl⟩
    rw [choice, ← resolveSelection_eq_needed? hresolved]
    exact ⟨⟨association, hresolved⟩, rfl⟩
  · rintro ⟨⟨association, hresolved⟩, rfl⟩
    refine ⟨association, hresolved, ?_⟩
    rw [choice, ← resolveSelection_eq_needed? hresolved]

/-- The paths of a selection that all lead somewhere are judged one by one. -/
theorem mapM_selected_eq_ok {selected : List Selected} :
    fields.mapM scope.selected = .ok selected ↔
      (∀ path ∈ fields, ∃ association, scope.resolveSelection path = .ok association) ∧
        selected = fields.map scope.choice := by
  have hmap : List.Forall₂ (fun path selected => selected = scope.choice path) fields selected ↔
      selected = fields.map scope.choice := by
    simp only [eq_comm (b := scope.choice _)]
    rw [← List.forall₂_map_left_iff (R := Eq), List.forall₂_eq_eq_eq, eq_comm]
  rw [Outcome.mapM_eq_ok, ← hmap, ← List.forall₂_and_left]
  simp only [Scope.selected_eq_ok]

theorem resolvePreloads_eq_ok {inverted : Bool} {preloads : List String} :
    resolvePreloads scope (some ⟨fields, inverted⟩) = .ok preloads ↔
      (∀ path ∈ fields, ∃ association, scope.resolveSelection path = .ok association) ∧
        preloads = preloadsOf scope inverted (fields.map scope.choice) := by
  rw [resolvePreloads, Outcome.map_eq_ok]
  simp only [mapM_selected_eq_ok]
  constructor
  · rintro ⟨selected, ⟨hpaths, rfl⟩, rfl⟩
    exact ⟨hpaths, rfl⟩
  · rintro ⟨hpaths, rfl⟩
    exact ⟨_, ⟨hpaths, rfl⟩, rfl⟩

theorem resolvePreloads_eq_error {inverted : Bool} {e : CompileError} :
    resolvePreloads scope (some ⟨fields, inverted⟩) = .error e ↔
      ∃ before path after, fields = before ++ path :: after ∧
        (∀ passed ∈ before, ∃ association, scope.resolveSelection passed = .ok association) ∧
          scope.resolveSelection path = .error e := by
  have hok (path : String) : (∃ selected, scope.selected path = .ok selected) ↔
      ∃ association, scope.resolveSelection path = .ok association := by
    simp [Scope.selected_eq_ok]
  have herror (path : String) : scope.selected path = .error e ↔
      scope.resolveSelection path = .error e := Outcome.map_eq_error
  rw [resolvePreloads, Outcome.map_eq_error, Outcome.mapM_eq_error]
  simp only [hok, herror]

/-- A plain selection loads what its paths need. -/
theorem preloadsOf_plain (scope : Scope) (fields : List String) :
    preloadsOf scope false (fields.map scope.choice) =
      firstAppearances ((fields.map scope.needed?).filterMap id) := by
  rw [preloadsOf, if_neg Bool.false_ne_true, List.filterMap_map, List.filterMap_map]
  rfl

/-- What an inverted selection leaves out is what it names as a single segment. -/
theorem mem_excluded_iff {name : String} :
    name ∈ ((fields.map scope.choice).filter (·.outright)).filterMap (·.association) ↔
      name ∈ fields ∧ FieldPath.Single name ∧
        scope.entity.associations.contains name = true := by
  constructor
  · intro h
    obtain ⟨selected, hselected, hassociation⟩ := List.mem_filterMap.1 h
    obtain ⟨hmem, houtright⟩ := List.mem_filter.1 hselected
    obtain ⟨path, hpath, rfl⟩ := List.mem_map.1 hmem
    have hsingle : FieldPath.Single path := FieldPath.not_contains_iff_single.1 houtright
    obtain ⟨rfl, hcontains⟩ := (Scope.needed?_eq_some_of_single hsingle).1 hassociation
    exact ⟨hpath, hsingle, hcontains⟩
  · rintro ⟨hpath, hsingle, hcontains⟩
    have hmem := List.mem_map_of_mem (f := scope.choice) hpath
    have houtright : (scope.choice name).outright = true :=
      FieldPath.not_contains_iff_single.2 hsingle
    have hneeded := (Scope.needed?_eq_some_of_single hsingle).2 ⟨rfl, hcontains⟩
    exact List.mem_filterMap.2 ⟨_, List.mem_filter.2 ⟨hmem, houtright⟩, hneeded⟩

/-- An inverted selection loads the associations that it does not name as a single segment. -/
theorem mem_preloadsOf_inverted {name : String} :
    name ∈ preloadsOf scope true (fields.map scope.choice) ↔
      scope.entity.associations.contains name = true ∧
        ¬(name ∈ fields ∧ FieldPath.Single name) := by
  have hmem : name ∈ preloadsOf scope true (fields.map scope.choice) ↔
      name ∈ scope.entity.associations.names ∧
        name ∉ ((fields.map scope.choice).filter (·.outright)).filterMap (·.association) := by
    rw [preloadsOf, if_pos rfl, List.mem_filter, Bool.not_eq_true', ← Bool.not_eq_true,
      List.contains_iff_mem]
  rw [hmem, NameMap.mem_names_iff, mem_excluded_iff]
  refine and_congr_right fun hcontains => not_congr ?_
  rw [and_iff_left hcontains]

theorem pairwise_preloadsOf_inverted (scope : Scope) (selected : List Selected) :
    (preloadsOf scope true selected).Pairwise (· < ·) := by
  have hnames : scope.entity.associations.names.Pairwise (· < ·) :=
    List.pairwise_map.2 scope.entity.associations.ascending
  exact hnames.filter _

/-- Inverted selections of the same paths load the same. -/
theorem resolvePreloads_inverted_congr {others : List String} {preloads : List String}
    (hothers : ∀ path, path ∈ others ↔ path ∈ fields)
    (h : resolvePreloads scope (some ⟨fields, true⟩) = .ok preloads) :
    resolvePreloads scope (some ⟨others, true⟩) = .ok preloads := by
  obtain ⟨hpaths, rfl⟩ := resolvePreloads_eq_ok.1 h
  refine resolvePreloads_eq_ok.2 ⟨fun path hpath => hpaths path ((hothers path).1 hpath), ?_⟩
  refine (pairwise_preloadsOf_inverted scope _).eq_of_mem_iff
    (pairwise_preloadsOf_inverted scope _) fun {name} => ?_
  rw [mem_preloadsOf_inverted, mem_preloadsOf_inverted, hothers]

theorem mem_preloadsOf_plain {name : String} :
    name ∈ preloadsOf scope false (fields.map scope.choice) ↔
      ∃ path ∈ fields, scope.needed? path = some name := by
  rw [preloadsOf_plain, mem_firstAppearances, List.filterMap_map, List.mem_filterMap]
  rfl

/-- A plain selection of single segments loads the associations among them. -/
theorem mem_preloadsOf_plain_of_single (hsingle : ∀ path ∈ fields, FieldPath.Single path)
    {name : String} :
    name ∈ preloadsOf scope false (fields.map scope.choice) ↔
      name ∈ fields ∧ scope.entity.associations.contains name = true := by
  rw [mem_preloadsOf_plain]
  constructor
  · rintro ⟨path, hpath, hneeded⟩
    obtain ⟨rfl, hcontains⟩ := (Scope.needed?_eq_some_of_single (hsingle path hpath)).1 hneeded
    exact ⟨hpath, hcontains⟩
  · rintro ⟨hpath, hcontains⟩
    exact ⟨name, hpath, (Scope.needed?_eq_some_of_single (hsingle name hpath)).2 ⟨rfl, hcontains⟩⟩

/-- Selections of single segments load no association both ways. -/
theorem disjoint_preloadsOf (hsingle : ∀ path ∈ fields, FieldPath.Single path) :
    (preloadsOf scope false (fields.map scope.choice)).Disjoint
      (preloadsOf scope true (fields.map scope.choice)) := by
  intro name hplain hinverted
  obtain ⟨hmem, -⟩ := (mem_preloadsOf_plain_of_single hsingle).1 hplain
  obtain ⟨-, hleft⟩ := mem_preloadsOf_inverted.1 hinverted
  exact hleft ⟨hmem, hsingle name hmem⟩

/-- Selections of single segments load every association one way or the other. -/
theorem mem_preloadsOf_or (hsingle : ∀ path ∈ fields, FieldPath.Single path) {name : String} :
    name ∈ preloadsOf scope false (fields.map scope.choice) ∨
        name ∈ preloadsOf scope true (fields.map scope.choice) ↔
      scope.entity.associations.contains name = true := by
  rw [mem_preloadsOf_plain_of_single hsingle, mem_preloadsOf_inverted]
  constructor
  · rintro (⟨-, hcontains⟩ | ⟨hcontains, -⟩)
    · exact hcontains
    · exact hcontains
  · intro hcontains
    by_cases hmem : name ∈ fields
    · exact .inl ⟨hmem, hcontains⟩
    · exact .inr ⟨hcontains, fun h => hmem h.1⟩

end Selection

/-! ### Filters and orders by the same path -/

/-- A filter with a single condition, which is on the path, and an order by the path alone cross
this association and no other. -/
structure Scope.CrossedAlone (scope : Scope) (path name : String) : Prop where
  filter : ∀ (f : Filter) (leaf : Leaf FieldPath), f.leaves = [some leaf] →
    leaf.field = .ofDotted path → ∃ compiled, compileFilter scope (some f) = .ok compiled ∧
      compiled.associations = .ofList [name]
  order : ∀ descending, ∃ compiled, compileSort scope (some [⟨path, descending⟩]) = .ok compiled ∧
    compiled.associations = .ofList [name]

section Crossed

variable {scope : Scope}

theorem compileSort_of_resolve {path name : String} {resolved : Resolved}
    (hresolved : scope.resolve (.ofDotted path) = .ok resolved)
    (hname : resolved.association = some name) (descending : Bool) :
    ∃ compiled, compileSort scope (some [⟨path, descending⟩]) = .ok compiled ∧
      compiled.associations = .ofList [name] := by
  have hterm : scope.orderTerm ⟨path, descending⟩ =
      .ok (⟨resolved.column, descending⟩, some name) := by
    rw [Scope.orderTerm, Scope.resolveDotted, hresolved, ← hname]
    rfl
  exact ⟨_, compileSort_some_eq_ok.2 ⟨_, .cons hterm .nil, rfl⟩, rfl⟩

/-- What a path of a selection crosses is what filters and orders by this path cross. -/
theorem Scope.crossedAlone {path name : String} {association : Option String}
    (h : scope.resolveSelection path = .ok association)
    (hname : (FieldPath.ofDotted path).crossed? = some name) : scope.CrossedAlone path name := by
  have hdot : '.' ∈ path.toList := by
    by_contra hsingle
    rw [FieldPath.crossed?, FieldPath.single_of_not_mem hsingle] at hname
    cases hname
  rw [resolveSelection_of_mem hdot] at h
  obtain ⟨resolved, hresolved, -⟩ := Outcome.map_eq_ok.1 h
  have hcrossed : resolved.association = some name :=
    (resolve_iff_reaches.1 hresolved).association_eq.trans hname
  refine ⟨fun f leaf hf hleaf => ?_, compileSort_of_resolve hresolved hcrossed⟩
  have hfield : scope.resolve leaf.field = .ok resolved := hleaf ▸ hresolved
  obtain ⟨compiled, -, hcompiled, -, -, hassociations⟩ := compileFilter_of_leaf hf hfield
  exact ⟨compiled, hcompiled, by rw [hassociations, hcrossed, Option.toList_some]⟩

end Crossed

/-! ### The main result -/

/-- **What is loaded along is what is selected.** A selection, inverted or not, is refused if and
only if one of its paths leads nowhere, and the first such path is told. A plain selection loads
the associations that its paths name as single segments or cross, each once, in the order in which
the paths first do so; those that are crossed are crossed by filters and orders on the same path.
An inverted selection loads, in ascending order of their bytes, the associations that it does not
name as single segments, and so does every other one of the same paths. If all paths are single
segments, each association of the entity is loaded by just one of the two. -/
theorem preloads_are_what_is_selected (scope : Scope) (fields : List String) :
    (∀ inverted, ((∃ preloads, resolvePreloads scope (some ⟨fields, inverted⟩) = .ok preloads) ↔
        ∀ path ∈ fields, ∃ association, scope.resolveSelection path = .ok association) ∧
      ∀ e, resolvePreloads scope (some ⟨fields, inverted⟩) = .error e ↔
        ∃ before path after, fields = before ++ path :: after ∧
          (∀ passed ∈ before, ∃ association, scope.resolveSelection passed = .ok association) ∧
            scope.resolveSelection path = .error e) ∧
    (∀ preloads, resolvePreloads scope (some ⟨fields, false⟩) = .ok preloads →
      (∀ name, name ∈ preloads ↔ ∃ path ∈ fields, scope.needed? path = some name) ∧
      preloads.Nodup ∧
      (preloads.Pairwise fun a b =>
        (fields.map scope.needed?).idxOf (some a) < (fields.map scope.needed?).idxOf (some b)) ∧
      ∀ path ∈ fields, ∀ name, (FieldPath.ofDotted path).crossed? = some name →
        scope.CrossedAlone path name) ∧
    (∀ preloads, resolvePreloads scope (some ⟨fields, true⟩) = .ok preloads →
      (∀ name, name ∈ preloads ↔ scope.entity.associations.contains name = true ∧
        ¬(name ∈ fields ∧ FieldPath.Single name)) ∧
      (preloads.Pairwise fun a b => Names.bytes a < Names.bytes b) ∧
      ∀ others, (∀ path, path ∈ others ↔ path ∈ fields) →
        resolvePreloads scope (some ⟨others, true⟩) = .ok preloads) ∧
    ((∀ path ∈ fields, FieldPath.Single path) → ∀ plain inverted,
      resolvePreloads scope (some ⟨fields, false⟩) = .ok plain →
        resolvePreloads scope (some ⟨fields, true⟩) = .ok inverted →
          plain.Disjoint inverted ∧ ∀ name, name ∈ plain ∨ name ∈ inverted ↔
            scope.entity.associations.contains name = true) := by
  refine ⟨fun inverted => ⟨?_, fun e => resolvePreloads_eq_error⟩, fun preloads h => ?_,
    fun preloads h => ?_, fun hsingle plain inverted hplain hinverted => ?_⟩
  · simp only [resolvePreloads_eq_ok, exists_and_left, exists_eq, and_true]
  · obtain ⟨hpaths, rfl⟩ := resolvePreloads_eq_ok.1 h
    have hpairwise := pairwise_firstAppearances (fields.map scope.needed?)
    rw [← preloadsOf_plain] at hpairwise
    refine ⟨fun name => mem_preloadsOf_plain, ?_, hpairwise, fun path hpath name hname => ?_⟩
    · refine hpairwise.imp fun {a b} hless heq => ?_
      rw [heq] at hless
      exact Nat.lt_irrefl _ hless
    · obtain ⟨association, hresolved⟩ := hpaths path hpath
      exact Scope.crossedAlone hresolved hname
  · refine ⟨fun name => ?_, ?_, fun others hothers => resolvePreloads_inverted_congr hothers h⟩
    · obtain ⟨-, rfl⟩ := resolvePreloads_eq_ok.1 h
      exact mem_preloadsOf_inverted
    · obtain ⟨-, rfl⟩ := resolvePreloads_eq_ok.1 h
      exact (pairwise_preloadsOf_inverted scope _).imp Names.lt_iff_bytes_lt.1
  · obtain ⟨-, rfl⟩ := resolvePreloads_eq_ok.1 hplain
    obtain ⟨-, rfl⟩ := resolvePreloads_eq_ok.1 hinverted
    exact ⟨disjoint_preloadsOf hsingle, fun name => mem_preloadsOf_or hsingle⟩

/-- A path that crosses an association is enough to load it along, but not enough to leave it out;
and paths that are repeated or come in another order make no difference to what is left out. -/
theorem preloads_are_what_is_selected_of_tickets :
    let fields := ["title", "project", "author.name", "project"]
    resolvePreloads ticketScope (some ⟨fields, false⟩) = .ok ["project", "author"] ∧
      ticketScope.CrossedAlone "author.name" "author" ∧
      resolvePreloads ticketScope (some ⟨fields, true⟩) = .ok ["assignee", "author", "parent"] ∧
      resolvePreloads ticketScope (some ⟨["author.name", "project", "title"], true⟩) =
        .ok ["assignee", "author", "parent"] ∧
      resolvePreloads ticketScope (some ⟨fields ++ ["author.ghost", "zone"], true⟩) =
        .error (.unknownField "User" "ghost") := by
  intro fields
  have hplain : resolvePreloads ticketScope (some ⟨fields, false⟩) = .ok ["project", "author"] := by
    decide +kernel
  have hinverted : resolvePreloads ticketScope (some ⟨fields, true⟩) =
      .ok ["assignee", "author", "parent"] := by decide +kernel
  obtain ⟨-, hwhenPlain, hwhenInverted, -⟩ := preloads_are_what_is_selected ticketScope fields
  obtain ⟨-, -, -, hcrossed⟩ := hwhenPlain _ hplain
  obtain ⟨-, -, hothers⟩ := hwhenInverted _ hinverted
  obtain ⟨hrefused, -⟩ :=
    preloads_are_what_is_selected ticketScope (fields ++ ["author.ghost", "zone"])
  have hghost : ticketScope.resolveSelection "author.ghost" =
      .error (.unknownField "User" "ghost") := by decide +kernel
  refine ⟨hplain, hcrossed "author.name" (by decide) "author" (by decide +kernel), hinverted,
    hothers _ fun path => ?_, ((hrefused true).2 _).2 ⟨fields, "author.ghost", _, rfl, ?_, hghost⟩⟩
  · show path ∈ ["author.name", "project", "title"] ↔
      path ∈ ["title", "project", "author.name", "project"]
    grind
  · exact ((preloads_are_what_is_selected ticketScope fields).1 true).1.1 ⟨_, hinverted⟩

end RequestSql
