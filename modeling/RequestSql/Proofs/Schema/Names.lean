import RequestSql.Config
import RequestSql.Proofs.Plan.Compiled
import RequestSql.Schema.WellFormed

/-!
# Names that reach a predicate

Of a well-formed schema every table and every column is an identifier. This is passed on
from the schema to its catalog, from the catalog to what a path leads to, and from there
to every column of a compiled filter: whatever tree comes in, its predicate names
identifiers only.

Key definitions: `Entity.Named`, `Catalog.Named`, `Predicate.Named`.
Key theorems: `Schema.catalog_named`, `Scope.resolve_eq_ok`, `Filter.Compiles.named`.
-/

namespace RequestSql

/-! ### Schemas -/

theorem NameMap.mem_of_get? {α : Type} {m : NameMap α} {name : String} {value : α}
    (h : m.get? name = some value) : (name, value) ∈ m.toList := by
  obtain ⟨before, after, heq, -⟩ := List.lookup_eq_some_iff.1 h
  rw [heq]
  exact List.mem_append_right _ (List.mem_cons_self ..)

/-- The table and the columns of an entity are identifiers. -/
structure Entity.Named (entity : Entity) : Prop where
  table : isIdentifier entity.table = true
  column : ∀ {field column : String}, entity.fields.get? field = some column →
    isIdentifier column = true

/-- Every entity of the catalog names identifiers. -/
def Catalog.Named (catalog : Catalog) : Prop :=
  ∀ {name : String} {entity : Entity}, catalog.entity? name = some entity → entity.Named

theorem identifierFault?_eq_none {name : String} :
    identifierFault? name = none ↔ isIdentifier name = true := by
  by_cases h : isIdentifier name = true <;> simp [identifierFault?, h]

/-- An entity without a fault names identifiers. -/
theorem Entity.named_of_no_fault {entities : NameMap Entity} {name : String} {entity : Entity}
    (h : entityFault? entities name entity = none) : entity.Named := by
  unfold entityFault? at h
  obtain ⟨htable, hrest⟩ := Option.or_eq_none_iff.1 h
  obtain ⟨hcolumns, -⟩ := Option.or_eq_none_iff.1 hrest
  refine ⟨identifierFault?_eq_none.1 htable, fun {field column} hcolumn => ?_⟩
  have hmem : column ∈ entity.fields.values :=
    List.mem_map.2 ⟨_, NameMap.mem_of_get? hcolumn, rfl⟩
  exact identifierFault?_eq_none.1 (List.findSome?_eq_none_iff.1 hcolumns column hmem)

/-- Looking up an entity in a well-formed schema finds one that names identifiers. -/
theorem Schema.catalog_named (schema : Schema) : schema.catalog.Named := by
  intro name entity h
  have hfault := List.findSome?_eq_none_iff.1 schema.faultless _ (NameMap.mem_of_get? h)
  exact Entity.named_of_no_fault hfault

/-! ### Paths -/

/-- The table and the name of a column are identifiers. -/
structure Column.Named (column : Column) : Prop where
  table : isIdentifier column.table = true
  name : isIdentifier column.name = true

/-- The entity and all that can be reached from it name identifiers. -/
structure Scope.Named (scope : Scope) : Prop where
  catalog : scope.catalog.Named
  entity : scope.entity.Named

theorem Scope.named_of_of? {catalog : Catalog} (hcatalog : catalog.Named)
    {entityName : String} {scope : Scope} (h : Scope.of? catalog entityName = .ok scope) :
    scope.Named := by
  unfold Scope.of? at h
  split at h
  · next entity hentity =>
    obtain rfl := Except.ok.inj h
    exact ⟨hcatalog, hcatalog hentity⟩
  · cases h

/-- Following associations stays among entities that name identifiers. -/
theorem Scope.follow_named {catalog : Catalog} (hcatalog : catalog.Named) :
    ∀ (hops : List String) (name : String) (entity : Entity) {last : String}
      {reached : Entity}, entity.Named → follow catalog name entity hops = .ok (last, reached) →
        reached.Named
  | [], _, _, _, _, hentity, h => by
    obtain ⟨rfl, rfl⟩ := Prod.mk.inj (Except.ok.inj h)
    exact hentity
  | hop :: hops, name, entity, last, reached, _, h => by
    rw [follow] at h
    split at h
    · cases h
    · next association _ =>
      split at h
      · cases h
      · next next hnext => exact follow_named hcatalog hops _ next (hcatalog hnext) h

/-- A path leads to a column if its hops, one at most, lead to an entity that has its last
segment as a field. -/
theorem Scope.resolve_eq_ok {scope : Scope} {path : FieldPath} {resolved : Resolved} :
    scope.resolve path = .ok resolved ↔
      ∃ hops field name entity column, path.segments = hops ++ [field] ∧
        follow scope.catalog scope.entityName scope.entity hops = .ok (name, entity) ∧
          hops.length ≤ 1 ∧ entity.fields.get? field = some column ∧
            resolved = ⟨⟨entity.table, column⟩, hops.head?⟩ := by
  unfold Scope.resolve
  constructor
  · intro h
    cases hlast : path.segments.getLast? with
    | none => rw [hlast] at h; cases h
    | some field =>
      have hsegments : path.segments = path.segments.dropLast ++ [field] := by
        obtain ⟨hops, heq⟩ := List.getLast?_eq_some_iff.1 hlast
        rw [heq, List.dropLast_concat]
      rw [hlast] at h
      simp only at h
      split at h
      · cases h
      · next name entity hfollow =>
        split at h
        · cases h
        · next hlength =>
          unfold columnOf at h
          cases hcolumn : entity.fields.get? field with
          | none => rw [hcolumn] at h; cases h
          | some column =>
            rw [hcolumn] at h
            exact ⟨_, field, name, entity, column, hsegments, hfollow, Nat.le_of_not_lt hlength,
              hcolumn, (Except.ok.inj h).symm⟩
  · rintro ⟨hops, field, name, entity, column, hsegments, hfollow, hlength, hcolumn, rfl⟩
    rw [hsegments, List.getLast?_concat]
    simp only [List.dropLast_concat, hfollow, Nat.not_lt.2 hlength, if_false]
    unfold columnOf
    rw [hcolumn]

theorem Scope.Named.resolve {scope : Scope} (hscope : scope.Named) {path : FieldPath}
    {resolved : Resolved} (h : scope.resolve path = .ok resolved) : resolved.column.Named := by
  obtain ⟨hops, field, name, entity, column, -, hfollow, -, hcolumn, rfl⟩ :=
    Scope.resolve_eq_ok.1 h
  have hentity := follow_named hscope.catalog hops _ _ hscope.entity hfollow
  exact ⟨hentity.table, hentity.column hcolumn⟩

/-- The scope of the items of the built-in configuration. -/
def Config.itemScope : Scope :=
  ⟨demo.schema.catalog, "Item", (demoEntities.get? "Item").get (by decide +kernel)⟩

theorem Config.scope_item : Scope.of? demo.schema.catalog "Item" = .ok itemScope := by
  have h : demo.schema.catalog.entity? "Item" = some itemScope.entity := by
    rw [itemScope, Option.some_get]
    rfl
  unfold Scope.of?
  rw [h]
  rfl

/-! ### Predicates -/

/-- Every column of the predicate names identifiers. -/
def Predicate.Named : Predicate → Prop
  | compare column _ _ _ => column.Named
  | isNull column _ => column.Named
  | logical _ _ left right => left.Named ∧ right.Named

/-- A compiled filter names identifiers. -/
theorem Filter.Compiles.named {scope : Scope} (hscope : scope.Named) {f : Filter}
    {predicate : Predicate} {associations : NameSet}
    (h : f.Compiles scope predicate associations) : predicate.Named := by
  induction h with
  | logical _ _ ihl ihr => exact ⟨ihl, ihr⟩
  | text hresolved => exact hscope.resolve hresolved
  | number hresolved => exact hscope.resolve hresolved
  | null hresolved => exact hscope.resolve hresolved

end RequestSql
