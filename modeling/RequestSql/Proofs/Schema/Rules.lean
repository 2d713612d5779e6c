import RequestSql.Proofs.Schema.Reach

/-!
# The rules of a schema

What a map of entities has to satisfy to be a schema, spelled out: tables, columns and keys are
identifiers, and an association has a name that is no field, leads to an entity of the map and
pairs at least one source key with a target key. The search for a fault finds none exactly when
all of this holds, so a schema, however it came about, satisfies the rules.

Key definition: `Entity.Accepted`.
Key theorems: `NameMap.get?_eq_some_iff`, `schemaFault?_eq_none_iff`, `Schema.accepted`.
-/

namespace RequestSql

/-! ### Entries of a map -/

/-- What a map has under a name is the value of its entry. -/
theorem NameMap.get?_eq_some_iff {α : Type} {m : NameMap α} {name : String} {value : α} :
    m.get? name = some value ↔ (name, value) ∈ m.toList := by
  constructor
  · exact mem_of_get?
  · intro hmem
    obtain ⟨before, after, heq⟩ := List.append_of_mem hmem
    refine List.lookup_eq_some_iff.2 ⟨before, after, heq, fun entry hentry => ?_⟩
    -- The entries before have lesser names.
    have hascending := m.ascending
    rw [heq] at hascending
    have hless : entry.1 < name :=
      (List.pairwise_append.1 hascending).2.2 entry hentry (name, value) (List.mem_cons_self ..)
    refine bne_iff_ne.2 fun hsame => ?_
    rw [hsame] at hless
    exact String.lt_irrefl _ hless

theorem NameMap.forall_entries_iff {α : Type} {m : NameMap α} {p : String → α → Prop} :
    (∀ entry ∈ m.toList, p entry.1 entry.2) ↔ ∀ name value, m.get? name = some value → p name value :=
  ⟨fun h name value hvalue => h (name, value) (get?_eq_some_iff.1 hvalue),
    fun h entry hentry => h entry.1 entry.2 (get?_eq_some_iff.2 hentry)⟩

/-! ### Rules -/

/-- The rules for an entity among the entities of a schema. -/
structure Entity.Accepted (entities : NameMap Entity) (entity : Entity) : Prop where
  /-- The table and the columns are identifiers. -/
  named : entity.Named
  /-- The name of an association is no field. -/
  apart : ∀ name association, entity.associations.get? name = some association →
    entity.fields.contains name = false
  /-- An association leads to an entity of the schema. -/
  leads : ∀ name association, entity.associations.get? name = some association →
    entities.contains association.entity = true
  /-- The keys of an association are identifiers, in pairs, at least one. -/
  keyed : ∀ name association, entity.associations.get? name = some association →
    association.Named

/-- An entity has no fault exactly when it follows the rules. -/
theorem entityFault?_eq_none_iff {entities : NameMap Entity} {name : String} {entity : Entity} :
    entityFault? entities name entity = none ↔ entity.Accepted entities := by
  have hassociations : (entity.associations.toList.findSome? fun entry =>
      associationFault? entities name entity entry.1 entry.2) = none ↔
        ∀ associationName association,
          entity.associations.get? associationName = some association →
            entity.fields.contains associationName = false ∧
              entities.contains association.entity = true ∧ association.Named := by
    rw [List.findSome?_eq_none_iff, ← NameMap.forall_entries_iff]
    exact forall_congr' fun entry => imp_congr_right fun _ => associationFault?_eq_none
  have hfaults : entityFault? entities name entity =
      (identifierFault? entity.table).or ((entity.fields.values.findSome? identifierFault?).or
        (entity.associations.toList.findSome? fun entry =>
          associationFault? entities name entity entry.1 entry.2)) := rfl
  rw [hfaults, Option.or_eq_none_iff, Option.or_eq_none_iff, hassociations,
    identifierFault?_eq_none, List.findSome?_eq_none_iff]
  constructor
  · rintro ⟨htable, hcolumns, hassociations⟩
    refine ⟨⟨htable, fun hcolumn => ?_⟩, fun n a h => (hassociations n a h).1,
      fun n a h => (hassociations n a h).2.1, fun n a h => (hassociations n a h).2.2⟩
    exact identifierFault?_eq_none.1
      (hcolumns _ (List.mem_map.2 ⟨_, NameMap.mem_of_get? hcolumn, rfl⟩))
  · intro h
    refine ⟨h.named.table, fun column hcolumn => ?_,
      fun n a ha => ⟨h.apart n a ha, h.leads n a ha, h.keyed n a ha⟩⟩
    obtain ⟨⟨field, column⟩, hentry, rfl⟩ := List.mem_map.1 hcolumn
    exact identifierFault?_eq_none.2 (h.named.column (NameMap.get?_eq_some_iff.2 hentry))

/-- **A map of entities has no fault exactly when all of them follow the rules.** -/
theorem schemaFault?_eq_none_iff {entities : NameMap Entity} :
    schemaFault? entities = none ↔
      ∀ name entity, entities.get? name = some entity → entity.Accepted entities := by
  rw [schemaFault?, List.findSome?_eq_none_iff, ← NameMap.forall_entries_iff]
  exact forall_congr' fun entry => imp_congr_right fun _ => entityFault?_eq_none_iff

/-- The entities of a schema follow the rules. -/
theorem Schema.accepted (schema : Schema) {name : String} {entity : Entity}
    (h : schema.entities.get? name = some entity) : entity.Accepted schema.entities :=
  schemaFault?_eq_none_iff.1 schema.faultless name entity h

/-- A schema is made of its own entities. -/
theorem Schema.ofEntities_entities (schema : Schema) :
    Schema.ofEntities schema.entities = .ok schema := by
  unfold Schema.ofEntities
  split
  · rfl
  · next e hfault =>
    rw [schema.faultless] at hfault
    cases hfault

/-- What a schema is made of has no fault. -/
theorem Schema.faultless_of_ofEntities {entities : NameMap Entity} {schema : Schema}
    (h : Schema.ofEntities entities = .ok schema) : schemaFault? entities = none := by
  unfold Schema.ofEntities at h
  split at h
  · next hfault => exact hfault
  · cases h

end RequestSql
