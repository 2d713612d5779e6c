import RequestSql.Proofs.Schema.Rules

/-!
# The checks of a schema in their order

Searching for a fault is going through a list of checks up to the first one that does not pass.
The list is written down here: entities by ascending name; of one entity its table, its columns by
field, its associations by name; of an association whether its name is free, whether its target
is there, whether its keys come in pairs, and then its keys, first the source keys. What a check
asks does not depend on the checks before it, so whatever else is wrong with a map of entities,
the fault that is told is that of the first check in this order that does not pass.

Key definitions: `SchemaCheck`, `SchemaCheck.Passes`, `schemaChecks`.
Key theorems: `isIdentifier_iff`, `schemaFault?_eq_findSome?`, `first_failed_check_is_told`.
-/

namespace RequestSql

/-! ### Identifiers -/

/-- An ASCII letter or an underscore. -/
def IdentifierLetter (c : Char) : Prop := 'A' ≤ c ∧ c ≤ 'Z' ∨ 'a' ≤ c ∧ c ≤ 'z' ∨ c = '_'

/-- An ASCII digit. -/
def IdentifierDigit (c : Char) : Prop := '0' ≤ c ∧ c ≤ '9'

theorem isIdentifierStart_iff {c : Char} : isIdentifierStart c = true ↔ IdentifierLetter c := by
  have hupper : c.isUpper = true ↔ 'A' ≤ c ∧ c ≤ 'Z' := decide_eq_true_iff
  have hlower : c.isLower = true ↔ 'a' ≤ c ∧ c ≤ 'z' :=
    Bool.and_eq_true_iff.trans (and_congr decide_eq_true_iff decide_eq_true_iff)
  have halpha : c.isAlpha = true ↔ c.isUpper = true ∨ c.isLower = true := Bool.or_eq_true_iff
  rw [isIdentifierStart, Bool.or_eq_true, halpha, hupper, hlower, beq_iff_eq, or_assoc]
  rfl

theorem isIdentifierPart_iff {c : Char} :
    isIdentifierPart c = true ↔ IdentifierLetter c ∨ IdentifierDigit c := by
  have hdigit : c.isDigit = true ↔ IdentifierDigit c :=
    Bool.and_eq_true_iff.trans (and_congr decide_eq_true_iff decide_eq_true_iff)
  have halphanum : c.isAlphanum = true ↔ c.isAlpha = true ∨ c.isDigit = true := Bool.or_eq_true_iff
  rw [← isIdentifierStart_iff, ← hdigit, isIdentifierPart, isIdentifierStart, Bool.or_eq_true,
    Bool.or_eq_true, halphanum]
  exact or_right_comm

/-- An identifier is a letter and then letters and digits. -/
theorem isIdentifier_iff {text : String} :
    isIdentifier text = true ↔ ∃ c cs, text.toList = c :: cs ∧ IdentifierLetter c ∧
      ∀ d ∈ cs, IdentifierLetter d ∨ IdentifierDigit d := by
  unfold isIdentifier
  cases text.toList with
  | nil => simp
  | cons c cs =>
    simp only [Bool.and_eq_true, List.all_eq_true, isIdentifierStart_iff, isIdentifierPart_iff]
    constructor
    · rintro ⟨hc, hcs⟩
      exact ⟨c, cs, rfl, hc, hcs⟩
    · rintro ⟨_, _, heq, hc, hcs⟩
      obtain ⟨rfl, rfl⟩ := List.cons.inj heq
      exact ⟨hc, hcs⟩

/-! ### Checks -/

/-- What is checked of a map of entities. -/
inductive SchemaCheck where
  /-- A table, a column or a key is an identifier. -/
  | identifier (name : String)
  /-- The name of an association is no field of its entity. -/
  | apart (entityName : String) (entity : Entity) (name : String)
  /-- The target of an association is there. -/
  | leads (entityName name target : String)
  /-- The keys of an association come in pairs, at least one. -/
  | paired (entityName name : String) (association : Association)

namespace SchemaCheck

/-- What the check asks. -/
def Passes (entities : NameMap Entity) : SchemaCheck → Prop
  | identifier name => isIdentifier name = true
  | apart _ entity name => entity.fields.contains name = false
  | leads _ _ target => entities.contains target = true
  | paired _ _ association =>
    association.sourceKeys ≠ [] ∧ association.sourceKeys.length = association.targetKeys.length

instance (entities : NameMap Entity) : DecidablePred (Passes entities)
  | identifier name => inferInstanceAs (Decidable (isIdentifier name = true))
  | apart _ entity name => inferInstanceAs (Decidable (entity.fields.contains name = false))
  | leads _ _ target => inferInstanceAs (Decidable (entities.contains target = true))
  | paired _ _ association =>
    inferInstanceAs (Decidable (association.sourceKeys ≠ [] ∧
      association.sourceKeys.length = association.targetKeys.length))

/-- The fault if it does not pass. -/
def fault : SchemaCheck → SchemaError
  | identifier name => .invalidIdentifier name
  | apart entityName _ name => .ambiguousName entityName name
  | leads entityName name target => .unknownTarget entityName name target
  | paired entityName name _ => .keyMismatch entityName name

/-- The fault of the check, if it does not pass. -/
def fault? (entities : NameMap Entity) (check : SchemaCheck) : Option SchemaError :=
  if check.Passes entities then none else some check.fault

end SchemaCheck

/-- The checks of the association under a name, in order. -/
def associationChecks (entityName : String) (entity : Entity) (name : String)
    (association : Association) : List SchemaCheck :=
  [.apart entityName entity name, .leads entityName name association.entity,
    .paired entityName name association] ++
      (association.sourceKeys ++ association.targetKeys).map .identifier

/-- The checks of the entity under a name, in order. -/
def entityChecks (name : String) (entity : Entity) : List SchemaCheck :=
  .identifier entity.table :: entity.fields.values.map .identifier ++
    entity.associations.toList.flatMap fun (associationName, association) =>
      associationChecks name entity associationName association

/-- The checks of a map of entities, in order. -/
def schemaChecks (entities : NameMap Entity) : List SchemaCheck :=
  entities.toList.flatMap fun (name, entity) => entityChecks name entity

/-! ### Searching for a fault -/

/-- To search a list that is put together from lists is to search these one after the other. -/
theorem findSome?_flatMap {α β γ : Type} (f : β → Option γ) (g : α → List β) (as : List α) :
    (as.flatMap g).findSome? f = as.findSome? fun a => (g a).findSome? f := by
  induction as with
  | nil => rfl
  | cons a as ih =>
    rw [List.flatMap_cons, List.findSome?_append, ih, List.findSome?_cons]
    cases (g a).findSome? f <;> rfl

section Fault

variable {entities : NameMap Entity}

/-- Names are searched by their checks. -/
theorem findSome?_identifier (names : List String) :
    (names.map SchemaCheck.identifier).findSome? (SchemaCheck.fault? entities) =
      names.findSome? identifierFault? := by
  rw [List.findSome?_map]
  rfl

theorem associationFault?_eq_findSome? (entityName : String) (entity : Entity) (name : String)
    (association : Association) :
    associationFault? entities entityName entity name association =
      (associationChecks entityName entity name association).findSome?
        (SchemaCheck.fault? entities) := by
  have hkeys : (association.sourceKeys.isEmpty ||
      association.sourceKeys.length != association.targetKeys.length) = true ↔
        ¬(association.sourceKeys ≠ [] ∧
          association.sourceKeys.length = association.targetKeys.length) := by
    rw [Bool.or_eq_true, List.isEmpty_iff, bne_iff_ne, not_and_or, not_not]
  rw [associationChecks, List.findSome?_append, findSome?_identifier]
  unfold associationFault?
  by_cases hfield : entity.fields.contains name = true
  · simp [hfield, SchemaCheck.fault?, SchemaCheck.Passes, SchemaCheck.fault]
  by_cases htarget : entities.contains association.entity = true
  · by_cases hpaired : association.sourceKeys ≠ [] ∧
        association.sourceKeys.length = association.targetKeys.length
    · simp [hfield, htarget, hpaired, SchemaCheck.fault?, SchemaCheck.Passes]
    · simp [hkeys, hfield, htarget, hpaired, SchemaCheck.fault?, SchemaCheck.Passes,
        SchemaCheck.fault]
  · simp [hfield, htarget, SchemaCheck.fault?, SchemaCheck.Passes, SchemaCheck.fault]

theorem entityFault?_eq_findSome? (name : String) (entity : Entity) :
    entityFault? entities name entity =
      (entityChecks name entity).findSome? (SchemaCheck.fault? entities) := by
  have hassociations : (entity.associations.toList.findSome? fun entry =>
      associationFault? entities name entity entry.1 entry.2) =
        (entity.associations.toList.flatMap fun entry =>
          associationChecks name entity entry.1 entry.2).findSome?
            (SchemaCheck.fault? entities) := by
    simp only [findSome?_flatMap, associationFault?_eq_findSome?]
  have hchecks : entityChecks name entity =
      [entity.table].map .identifier ++ (entity.fields.values.map .identifier ++
        entity.associations.toList.flatMap fun entry =>
          associationChecks name entity entry.1 entry.2) := rfl
  rw [hchecks, List.findSome?_append, List.findSome?_append, findSome?_identifier,
    findSome?_identifier, ← hassociations, List.findSome?_singleton]
  rfl

/-- **Searching for a fault is going through the checks.** -/
theorem schemaFault?_eq_findSome? (entities : NameMap Entity) :
    schemaFault? entities = (schemaChecks entities).findSome? (SchemaCheck.fault? entities) := by
  rw [schemaChecks, findSome?_flatMap]
  simp only [← entityFault?_eq_findSome?]
  rfl

theorem SchemaCheck.fault?_eq_none {check : SchemaCheck} :
    check.fault? entities = none ↔ check.Passes entities := by
  by_cases h : check.Passes entities <;> simp [fault?, h]

theorem SchemaCheck.fault?_eq_some {check : SchemaCheck} {e : SchemaError} :
    check.fault? entities = some e ↔ ¬check.Passes entities ∧ check.fault = e := by
  by_cases h : check.Passes entities <;> simp [fault?, h]

/-- The fault that is found is that of the first check that does not pass. -/
theorem schemaFault?_eq_some_iff {e : SchemaError} :
    schemaFault? entities = some e ↔
      ∃ before check after, schemaChecks entities = before ++ check :: after ∧
        (∀ passed ∈ before, passed.Passes entities) ∧ ¬check.Passes entities ∧
          check.fault = e := by
  rw [schemaFault?_eq_findSome?, List.findSome?_eq_some_iff]
  simp only [SchemaCheck.fault?_eq_none, SchemaCheck.fault?_eq_some]
  constructor
  · rintro ⟨before, check, after, hchecks, hfails, hpassed⟩
    exact ⟨before, check, after, hchecks, hpassed, hfails⟩
  · rintro ⟨before, check, after, hchecks, hpassed, hfails⟩
    exact ⟨before, check, after, hchecks, hfails, hpassed⟩

end Fault

/-! ### Schemas -/

/-- A schema that is made of entities has these entities. -/
theorem Schema.entities_of_ofEntities {entities : NameMap Entity} {schema : Schema}
    (h : Schema.ofEntities entities = .ok schema) : schema.entities = entities := by
  unfold Schema.ofEntities at h
  split at h
  · rw [← Except.ok.inj h]
  · cases h

theorem Schema.ofEntities_eq_error {entities : NameMap Entity} {e : SchemaError} :
    Schema.ofEntities entities = .error e ↔ schemaFault? entities = some e := by
  unfold Schema.ofEntities
  split
  · next hfault => simp [hfault]
  · next other hfault => simp [hfault]

/-! ### The main result -/

/-- **A schema is accepted if it follows the rules, and else its first fault is told.** Whatever the
entities are, they make up a schema, and it has just these entities, if and only if every one of
them follows the rules; they are refused with an error if and only if it is that of a check that
does not pass while all checks before it do. What the rules take for an identifier are an ASCII
letter or underscore and then ASCII letters, digits and underscores. -/
theorem first_failed_check_is_told (entities : NameMap Entity) :
    ((∃ schema, Schema.ofEntities entities = .ok schema) ↔
      ∀ name entity, entities.get? name = some entity → entity.Accepted entities) ∧
    (∀ schema, Schema.ofEntities entities = .ok schema ↔ schema.entities = entities) ∧
    (∀ e, Schema.ofEntities entities = .error e ↔
      ∃ before check after, schemaChecks entities = before ++ check :: after ∧
        (∀ passed ∈ before, passed.Passes entities) ∧ ¬check.Passes entities ∧
          check.fault = e) ∧
    ∀ text, isIdentifier text = true ↔ ∃ c cs, text.toList = c :: cs ∧ IdentifierLetter c ∧
      ∀ d ∈ cs, IdentifierLetter d ∨ IdentifierDigit d := by
  refine ⟨⟨?_, fun haccepted => ?_⟩, fun schema => ⟨Schema.entities_of_ofEntities, ?_⟩,
    fun e => ?_, fun text => isIdentifier_iff⟩
  · rintro ⟨schema, hschema⟩
    exact schemaFault?_eq_none_iff.1 (Schema.faultless_of_ofEntities hschema)
  · have hfault : schemaFault? entities = none := schemaFault?_eq_none_iff.2 haccepted
    exact ⟨⟨entities, hfault⟩, Schema.ofEntities_entities ⟨entities, hfault⟩⟩
  · rintro rfl
    exact schema.ofEntities_entities
  · rw [Schema.ofEntities_eq_error, schemaFault?_eq_some_iff]

/-- Of an item whose owner is missing and whose keys are not paired, beside an entity whose table is
no identifier, the missing owner is told. With all three mended the entities make up a schema. -/
theorem first_failed_check_is_told_of_items :
    let items (key : List String) : Entity :=
      { table := "items"
        fields := .ofList [("name", "name")]
        associations := .ofList [("owner", ⟨"Owner", key, ["owner_id"]⟩)] }
    let sizes (table : String) : Entity :=
      { table := table, fields := .empty, associations := .empty }
    let wrong : NameMap Entity := .ofList [("Size", sizes "my sizes"), ("Item", items [])]
    let right : NameMap Entity := .ofList [("Owner", sizes "owners"), ("Item", items ["id"])]
    Schema.ofEntities wrong = .error (.unknownTarget "Item" "owner" "Owner") ∧
      ∃ schema, Schema.ofEntities right = .ok schema ∧
        ∀ name entity, right.get? name = some entity → entity.Accepted right := by
  intro items sizes wrong right
  obtain ⟨-, -, herror, -⟩ := first_failed_check_is_told wrong
  obtain ⟨haccepted, hentities, -⟩ := first_failed_check_is_told right
  let schema : Schema := ⟨right, by decide +kernel⟩
  have hschema : Schema.ofEntities right = .ok schema := (hentities schema).2 rfl
  refine ⟨(herror _).2 ⟨[.identifier "items", .identifier "name", .apart "Item" (items []) "owner"],
    .leads "Item" "owner" "Owner", _, rfl, ?_, ?_, rfl⟩, schema, hschema,
    haccepted.1 ⟨schema, hschema⟩⟩
  · decide +kernel
  · decide +kernel

end RequestSql
