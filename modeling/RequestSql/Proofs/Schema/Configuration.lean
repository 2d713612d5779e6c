import RequestSql.Config
import RequestSql.Proofs.Json.ReadBack
import RequestSql.Proofs.Schema.Rules

/-!
# Configurations written and read again

A configuration that is written as JSON text is read back as it was, whatever names its entities,
fields and associations have and whatever its limit is. And a text that is read as a
configuration, in whatever order its members stand and with whatever defaults, has a schema that
follows the rules; what is written of it is one of its texts, and is written of it again once it
has been read.

A map is read entry by entry. Its names come in ascending order, so each of them is put at the
end of those before, and when all of them have been read the map is there again. A record is
read field by field into a draft, which is finished when it is full.

Key theorems: `NameMap.membersLead`, `Association.readsBack`, `Entity.readsBack`,
`Schema.readsBack`, `Config.readsBack`, `configuration_reads_back`.
-/

namespace RequestSql

open Json (Reader ReadsBack MembersLead leads_field readsBack_text readsBack_texts readsBack_count)

/-! ### Maps -/

namespace NameMap

variable {α : Type}

/-- Maps with the same entries are the same. -/
theorem ext_toList {m n : NameMap α} (h : m.toList = n.toList) : m = n := by
  obtain ⟨entries, hentries⟩ := m
  obtain ⟨others, hothers⟩ := n
  obtain rfl : entries = others := h
  rfl

/-- A name that is greater than all names before is put at the end. -/
theorem insertInto_eq_append {name : String} {value : α} {entries : List (String × α)}
    (h : ∀ entry ∈ entries, entry.1 < name) :
    insertInto name value entries = entries ++ [(name, value)] := by
  induction entries with
  | nil => rfl
  | cons entry entries ih =>
    obtain ⟨hless, hrest⟩ := List.forall_mem_cons.1 h
    have hne : name ≠ entry.1 := by
      rintro rfl
      exact String.lt_irrefl _ hless
    rw [insertInto, if_neg (String.lt_asymm hless), if_neg hne, ih hrest]
    rfl

/-- Reading the entries that are written of a map leads from those before them to all. -/
theorem membersLead {value : Reader α} {toJson : α → Json} (after : List (String × α))
    (hvalues : ∀ entry ∈ after, ReadsBack value (toJson entry.2) entry.2) (m last : NameMap α)
    (hlast : last.toList = m.toList ++ after) :
    MembersLead (fun m name => Reader.memberValue (Reader.map (m.insert name ·) value)) m
      (after.map fun entry => (entry.1, toJson entry.2)) last := by
  induction after generalizing m with
  | nil =>
    rw [List.append_nil] at hlast
    rw [ext_toList hlast]
    exact .nil
  | cons entry after ih =>
    obtain ⟨name, a⟩ := entry
    obtain ⟨hvalue, hvalues⟩ := List.forall_mem_cons.1 hvalues
    have hascending := last.ascending
    rw [hlast] at hascending
    have hless : ∀ entry ∈ m.toList, entry.1 < name := fun entry hentry =>
      (List.pairwise_append.1 hascending).2.2 entry hentry (name, a) (List.mem_cons_self ..)
    have hinsert : (m.insert name a).toList = m.toList ++ [(name, a)] :=
      insertInto_eq_append hless
    have hrest := ih hvalues (m.insert name a) (by rw [hlast, hinsert]; simp)
    refine .cons (fun rest hrest => ?_) hrest
    exact Json.yields_memberValue ((hvalue rest hrest).mapFound _)

/-- **A map is read back if its values are.** -/
theorem readsBack {value : Reader α} {toJson : α → Json} (m : NameMap α)
    (h : ∀ a, ReadsBack value (toJson a) a) : ReadsBack (reader value) (m.toJson toJson) m :=
  (membersLead m.toList (fun entry _ => h entry.2) empty m rfl).foldObject

end NameMap

/-! ### Schemas -/

theorem Association.readsBack (a : Association) : ReadsBack reader a.toJson a := by
  have hfields : MembersLead (Reader.fieldMember draftFields) ⟨none, none, none⟩
      [("entity", .text a.entity), ("source_keys", .texts a.sourceKeys),
        ("target_keys", .texts a.targetKeys)]
      ⟨some a.entity, some a.sourceKeys, some a.targetKeys⟩ :=
    .cons (leads_field rfl rfl (readsBack_text a.entity)) <|
      .cons (leads_field rfl rfl (readsBack_texts a.sourceKeys)) <|
        .cons (leads_field rfl rfl (readsBack_texts a.targetKeys)) .nil
  exact hfields.record rfl

theorem Entity.readsBack (e : Entity) : ReadsBack reader e.toJson e := by
  have hcolumns : ReadsBack (NameMap.reader Reader.text) (e.fields.toJson .text) e.fields :=
    e.fields.readsBack readsBack_text
  have hassociations : ReadsBack (NameMap.reader Association.reader)
      (e.associations.toJson Association.toJson) e.associations :=
    e.associations.readsBack Association.readsBack
  have hfields : MembersLead (Reader.fieldMember draftFields) ⟨none, none, none⟩
      [("table", .text e.table), ("fields", e.fields.toJson .text),
        ("associations", e.associations.toJson Association.toJson)]
      ⟨some e.table, some e.fields, some e.associations⟩ :=
    .cons (leads_field rfl rfl (readsBack_text e.table)) <|
      .cons (leads_field rfl rfl hcolumns) <|
        .cons (leads_field rfl rfl hassociations) .nil
  exact hfields.record rfl

/-- The entities of a schema are read back, and they are accepted. -/
theorem Schema.readsBack (schema : Schema) : ReadsBack reader schema.toJson schema := by
  intro rest hrest
  have hentities : ReadsBack (NameMap.reader Entity.reader) schema.toJson schema.entities :=
    schema.entities.readsBack Entity.readsBack
  refine (hentities rest hrest).finishWith ?_
  rw [schema.ofEntities_entities]
  rfl

/-! ### Configurations -/

theorem fromUTF8?_toUTF8 (text : String) : String.fromUTF8? text.toUTF8 = some text :=
  dif_pos text.isValidUTF8

namespace Config

theorem limit_readsBack (limit : UInt64) :
    ReadsBack limitReader (.object [("default_limit", .count limit)]) limit := by
  have hfields : MembersLead
      (Reader.fieldMember [Reader.field "default_limit" id (fun _ v => some v) Reader.count]) none
      [("default_limit", .count limit)] (some limit) :=
    .cons (leads_field rfl rfl (readsBack_count limit)) .nil
  exact hfields.record rfl

theorem readsBack (config : Config) : ReadsBack reader config.toJson config := by
  have hfields : MembersLead (Reader.fieldMember draftFields) ⟨none, none⟩
      [("compiler", .object [("default_limit", .count config.defaultLimit)]),
        ("schema", config.schema.toJson)]
      ⟨some config.defaultLimit, some config.schema⟩ :=
    .cons (leads_field rfl rfl (limit_readsBack config.defaultLimit)) <|
      .cons (leads_field rfl rfl config.schema.readsBack) .nil
  exact hfields.record rfl

theorem ofText_write (config : Config) : ofText config.write = .ok config := config.readsBack.run

/-- A file with the text of a configuration is loaded. -/
theorem load_write (path : String) (config : Config) :
    load path (some config.write.toUTF8) = .ok config := by
  have hread := config.ofText_write
  generalize config.write = text at hread ⊢
  simp only [load, fromUTF8?_toUTF8, hread]
  rfl

end Config

/-! ### The main result -/

/-- **A configuration is read back from its text, and what is read follows the rules.** Whatever
the limit and the names are, the text of a configuration is read as the configuration, also from
a file. And if a text is read as a configuration, in whatever way it is written, the tables,
columns and keys of the schema are identifiers and its associations follow the rules, which are
those that make a schema of a map of entities; the text that is written of the configuration is
read as it, and of what has been read the same text is written. -/
theorem configuration_reads_back :
    (∀ config : Config, Config.ofText config.write = .ok config ∧
      ∀ path, Config.load path (some config.write.toUTF8) = .ok config) ∧
    (∀ text config, Config.ofText text = .ok config →
      (∀ name entity, config.schema.entities.get? name = some entity →
        entity.Accepted config.schema.entities) ∧
      ∃ again, Config.ofText config.write = .ok again ∧ again = config ∧
        again.write = config.write) ∧
    (∀ entities, (∃ schema, Schema.ofEntities entities = .ok schema) ↔
      ∀ name entity, entities.get? name = some entity → entity.Accepted entities) := by
  refine ⟨fun config => ⟨config.ofText_write, fun path => config.load_write path⟩,
    fun text config _ => ⟨fun name entity => config.schema.accepted, ?_⟩,
    fun entities => ⟨?_, fun haccepted => ?_⟩⟩
  · exact ⟨config, config.ofText_write, rfl, rfl⟩
  · rintro ⟨schema, hschema⟩
    exact schemaFault?_eq_none_iff.1 (Schema.faultless_of_ofEntities hschema)
  · have hfault : schemaFault? entities = none := schemaFault?_eq_none_iff.2 haccepted
    exact ⟨⟨entities, hfault⟩, Schema.ofEntities_entities ⟨entities, hfault⟩⟩

/-- A text in which the limit, the fields and the associations are left out is read with the
defaults, which are then written. -/
theorem configuration_reads_back_of_defaults :
    let text := "\x7b \"schema\": \x7b\"Größe \\\"1\\\"\": \x7b\"table\": \"sizes\"\x7d\x7d\x7d"
    ∃ config : Config, Config.ofText text = .ok config ∧ Config.ofText config.write = .ok config ∧
      config.write = "\x7b\"compiler\":\x7b\"default_limit\":1000\x7d,\"schema\":\x7b" ++
        "\"Größe \\\"1\\\"\":\x7b\"table\":\"sizes\",\"fields\":\x7b\x7d," ++
        "\"associations\":\x7b\x7d\x7d\x7d\x7d" := by
  intro text
  let entities : NameMap Entity :=
    .ofList [("Größe \"1\"", { table := "sizes", fields := .empty, associations := .empty })]
  let config : Config := ⟨Config.standardLimit, entities, by decide +kernel⟩
  have hread : Config.ofText text = .ok config := by decide +kernel
  obtain ⟨-, again, hagain, rfl, -⟩ := configuration_reads_back.2.1 text config hread
  exact ⟨_, hread, hagain, by decide +kernel⟩

end RequestSql
