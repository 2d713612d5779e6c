import RequestSql.Plan.Join
import RequestSql.Plan.Preload
import RequestSql.Proofs.Outcome
import RequestSql.Proofs.Schema.Names

/-!
# What can be reached from an entity

From an entity a path reaches a column of its own, or one of the entity that an association
of it leads to; there is no third kind. What a path reaches, the join for an association
and the association that a selection needs are all given in these terms, so that nothing
later has to look into the resolver again. The keys of an association of a well-formed
schema are identifiers, and there is at least one pair of them.

Key definitions: `Scope.Leads`, `Scope.Reaches`, `FieldPath.crossed?`, `Association.Named`.
Key theorems: `Scope.resolve_iff_reaches`, `Scope.join_eq_ok`, `Scope.contains_of_selected`,
`associationFault?_eq_none`, `Schema.no_associationFault`, `Schema.association_named`.
-/

namespace RequestSql

/-! ### Paths -/

/-- An association of the entity leads to another entity of the catalog. -/
structure Scope.Leads (scope : Scope) (name : String) (association : Association)
    (target : Entity) : Prop where
  declared : scope.entity.associations.get? name = some association
  found : scope.catalog.entity? association.entity = some target

/-- What a path reaches, and the association on the way. -/
inductive Scope.Reaches (scope : Scope) : FieldPath → Resolved → Prop where
  | own {field column : String} :
      scope.entity.fields.get? field = some column →
        Reaches scope ⟨[field]⟩ ⟨⟨scope.entity.table, column⟩, none⟩
  | across {name field column : String} {association : Association} {target : Entity} :
      scope.Leads name association target → target.fields.get? field = some column →
        Reaches scope ⟨[name, field]⟩ ⟨⟨target.table, column⟩, some name⟩

/-- The association that a path crosses: the first of its two segments. -/
def FieldPath.crossed? (path : FieldPath) : Option String :=
  match path.segments with
  | [association, _] => some association
  | _ => none

namespace Scope

variable {scope : Scope}

theorem follow_nil (catalog : Catalog) (name : String) (entity : Entity) :
    follow catalog name entity [] = .ok (name, entity) := rfl

/-- One association is followed by looking it up, and then the entity that it names. -/
theorem follow_singleton_eq_ok {hop last : String} {reached : Entity} :
    follow scope.catalog scope.entityName scope.entity [hop] = .ok (last, reached) ↔
      ∃ association, scope.Leads hop association reached ∧ association.entity = last := by
  unfold follow
  constructor
  · intro h
    split at h
    · cases h
    · next association hassociation =>
      split at h
      · cases h
      · next target htarget =>
        obtain ⟨rfl, rfl⟩ := Prod.mk.inj (Except.ok.inj h)
        exact ⟨association, ⟨hassociation, htarget⟩, rfl⟩
  · rintro ⟨association, h, rfl⟩
    simp only [h.declared, h.found]
    rfl

/-- Resolving finds what a path reaches. -/
theorem resolve_iff_reaches {path : FieldPath} {resolved : Resolved} :
    scope.resolve path = .ok resolved ↔ scope.Reaches path resolved := by
  rw [resolve_eq_ok]
  obtain ⟨segments⟩ := path
  constructor
  · rintro ⟨hops, field, name, entity, column, rfl, hfollow, hlength, hcolumn, rfl⟩
    match hops, hlength with
    | [], _ =>
      obtain ⟨-, rfl⟩ := Prod.mk.inj (Except.ok.inj hfollow)
      exact .own hcolumn
    | [hop], _ =>
      obtain ⟨association, hleads, -⟩ := follow_singleton_eq_ok.1 hfollow
      exact .across hleads hcolumn
  · intro h
    cases h with
    | own hcolumn =>
      exact ⟨[], _, _, _, _, rfl, follow_nil .., Nat.zero_le _, hcolumn, rfl⟩
    | across hleads hcolumn =>
      exact ⟨[_], _, _, _, _, rfl, follow_singleton_eq_ok.2 ⟨_, hleads, rfl⟩, Nat.le_refl _,
        hcolumn, rfl⟩

/-- The association of a column that is found is the one that the path crosses. -/
theorem Reaches.association_eq {path : FieldPath} {resolved : Resolved}
    (h : scope.Reaches path resolved) : resolved.association = path.crossed? := by
  cases h <;> rfl

theorem Reaches.leads {path : FieldPath} {resolved : Resolved} {name : String}
    (h : scope.Reaches path resolved) (hname : resolved.association = some name) :
    ∃ association target, scope.Leads name association target := by
  cases h with
  | own => cases hname
  | across hleads => exact ⟨_, _, Option.some.inj hname ▸ hleads⟩

/-- The table of the columns that are reached directly, or across an association. -/
def tableOf? (scope : Scope) : Option String → Option String
  | none => some scope.entity.table
  | some name =>
    (scope.entity.associations.get? name).bind fun association =>
      (scope.catalog.entity? association.entity).map (·.table)

theorem Leads.tableOf?_eq {name : String} {association : Association} {target : Entity}
    (h : scope.Leads name association target) : scope.tableOf? (some name) = some target.table := by
  rw [tableOf?, h.declared, Option.bind_some, h.found, Option.map_some]

/-- Which association a path crosses decides to which table it leads. -/
theorem Reaches.tableOf?_eq {path : FieldPath} {resolved : Resolved}
    (h : scope.Reaches path resolved) :
    scope.tableOf? path.crossed? = some resolved.column.table := by
  cases h with
  | own => rfl
  | across hleads => exact hleads.tableOf?_eq

/-! ### Joins and selections -/

/-- A join is made of what its association leads to. -/
theorem join_eq_ok {name : String} {join : Join} :
    scope.join name = .ok join ↔
      ∃ association target, scope.Leads name association target ∧
        join = ⟨name, target.table,
          List.zipWith (fun source own => (⟨target.table, source⟩, ⟨scope.entity.table, own⟩))
            association.sourceKeys association.targetKeys⟩ := by
  unfold Scope.join
  constructor
  · intro h
    split at h
    · cases h
    · next association hassociation =>
      split at h
      · cases h
      · next target htarget =>
        exact ⟨association, target, ⟨hassociation, htarget⟩, (Except.ok.inj h).symm⟩
  · rintro ⟨association, target, h, rfl⟩
    simp only [h.declared, h.found]

/-- A pair of keys is a column of the joined table and one of the own table, both declared. -/
theorem mem_keyPairs_of_join {name : String} {join : Join} (h : scope.join name = .ok join)
    {pair : Column × Column} (hpair : pair ∈ join.keyPairs) :
    ∃ association, scope.entity.associations.get? name = some association ∧
      ∃ source ∈ association.sourceKeys, ∃ own ∈ association.targetKeys,
        pair = (⟨join.table, source⟩, ⟨scope.entity.table, own⟩) := by
  obtain ⟨association, target, hleads, rfl⟩ := join_eq_ok.1 h
  obtain ⟨i, hi⟩ := List.mem_iff_getElem?.1 hpair
  obtain ⟨source, own, hsource, hown, heq⟩ := List.getElem?_zipWith_eq_some.1 hi
  exact ⟨association, hleads.declared, source, List.mem_of_getElem? hsource, own,
    List.mem_of_getElem? hown, heq.symm⟩

/-- The association that a path of a selection needs is one of the entity. -/
theorem contains_of_resolveSelection {dotted name : String}
    (h : scope.resolveSelection dotted = .ok (some name)) :
    scope.entity.associations.contains name = true := by
  unfold resolveSelection at h
  split at h
  · split at h
    · cases h
    · next resolved hresolved =>
      have hreaches := resolve_iff_reaches.1 hresolved
      obtain ⟨association, target, hleads⟩ := hreaches.leads (Except.ok.inj h)
      exact Option.isSome_iff_exists.2 ⟨_, hleads.declared⟩
  · split at h
    · next hcontains =>
      obtain rfl := Option.some.inj (Except.ok.inj h)
      exact hcontains
    · split at h <;> cases h

theorem contains_of_selected {path name : String} {selected : Selected}
    (h : scope.selected path = .ok selected) (hname : selected.association = some name) :
    scope.entity.associations.contains name = true := by
  obtain ⟨association, hselection, rfl⟩ := Outcome.map_eq_ok.1 h
  obtain rfl : association = some name := hname
  exact contains_of_resolveSelection hselection

end Scope

theorem mem_firstAppearances {name : String} {names : List String} :
    name ∈ firstAppearances names ↔ name ∈ names := by
  induction names with
  | nil => rfl
  | cons n names ih =>
    rw [firstAppearances, List.mem_cons, List.mem_filter, ih, List.mem_cons, bne_iff_ne]
    by_cases h : name = n <;> simp [h]

theorem NameMap.contains_of_mem_names {α : Type} {m : NameMap α} {name : String}
    (h : name ∈ m.names) : m.contains name = true := by
  obtain ⟨⟨n, value⟩, hmem, rfl⟩ := List.mem_map.1 h
  refine Option.isSome_iff_ne_none.2 fun hnone => ?_
  exact absurd rfl (bne_iff_ne.1 (List.lookup_eq_none_iff.1 hnone _ hmem))

theorem NameMap.mem_names_iff {α : Type} {m : NameMap α} {name : String} :
    name ∈ m.names ↔ m.contains name = true := by
  refine ⟨contains_of_mem_names, fun h => ?_⟩
  obtain ⟨value, hvalue⟩ := Option.isSome_iff_exists.1 h
  exact List.mem_map_of_mem (mem_of_get? hvalue)

/-- Whatever is preloaded is an association of the entity. -/
theorem contains_of_mem_preloads {scope : Scope} {selection : Option FieldSelection}
    {preloads : List String} (h : resolvePreloads scope selection = .ok preloads)
    {name : String} (hname : name ∈ preloads) :
    scope.entity.associations.contains name = true := by
  cases selection with
  | none =>
    obtain rfl := Except.ok.inj h
    cases hname
  | some selection =>
    obtain ⟨selected, hselected, rfl⟩ := Outcome.map_eq_ok.1 h
    unfold preloadsOf at hname
    split at hname
    · exact NameMap.contains_of_mem_names (List.mem_filter.1 hname).1
    · obtain ⟨s, hs, hassociation⟩ := List.mem_filterMap.1 (mem_firstAppearances.1 hname)
      obtain ⟨path, -, hpath⟩ := Outcome.exists_of_mem_right (Outcome.mapM_eq_ok.1 hselected) hs
      exact Scope.contains_of_selected hpath hassociation

/-! ### Keys -/

/-- The keys of an association are identifiers, in pairs, at least one. -/
structure Association.Named (association : Association) : Prop where
  key : ∀ key ∈ association.sourceKeys ++ association.targetKeys, isIdentifier key = true
  keyed : association.sourceKeys ≠ []
  paired : association.sourceKeys.length = association.targetKeys.length

/-- An association has no fault if its name is free, its entity is there and its keys are in
order. -/
theorem associationFault?_eq_none {entities : NameMap Entity} {entityName name : String}
    {entity : Entity} {association : Association} :
    associationFault? entities entityName entity name association = none ↔
      entity.fields.contains name = false ∧ entities.contains association.entity = true ∧
        association.Named := by
  unfold associationFault?
  by_cases hfield : entity.fields.contains name = true
  · simp [hfield]
  by_cases htarget : entities.contains association.entity = true
  · by_cases hkeyed : association.sourceKeys = []
    · have hnamed : ¬association.Named := fun h => h.keyed hkeyed
      simp [hfield, htarget, hkeyed, hnamed]
    by_cases hpaired : association.sourceKeys.length = association.targetKeys.length
    · have hnamed : association.Named ↔
          ∀ key ∈ association.sourceKeys ++ association.targetKeys, isIdentifier key = true :=
        ⟨fun h => h.key, fun h => ⟨h, hkeyed, hpaired⟩⟩
      simp only [hnamed, ← identifierFault?_eq_none, ← List.findSome?_eq_none_iff]
      simp [hfield, htarget, hkeyed, hpaired]
    · have hnamed : ¬association.Named := fun h => hpaired h.paired
      simp [hfield, htarget, hpaired, hnamed]
  · simp [hfield, htarget]

/-- No association of a well-formed schema has a fault. -/
theorem Schema.no_associationFault (schema : Schema) {entityName name : String} {entity : Entity}
    {association : Association} (hentity : schema.catalog.entity? entityName = some entity)
    (hassociation : entity.associations.get? name = some association) :
    associationFault? schema.entities entityName entity name association = none := by
  have hfault := List.findSome?_eq_none_iff.1 schema.faultless _ (NameMap.mem_of_get? hentity)
  have hassociations := (Option.or_eq_none_iff.1 (Option.or_eq_none_iff.1 hfault).2).2
  exact List.findSome?_eq_none_iff.1 hassociations _ (NameMap.mem_of_get? hassociation)

/-- The associations of an entity of a well-formed schema have keys. -/
theorem Schema.association_named (schema : Schema) {entityName name : String} {entity : Entity}
    {association : Association} (hentity : schema.catalog.entity? entityName = some entity)
    (hassociation : entity.associations.get? name = some association) : association.Named :=
  (associationFault?_eq_none.1 (schema.no_associationFault hentity hassociation)).2.2

end RequestSql
