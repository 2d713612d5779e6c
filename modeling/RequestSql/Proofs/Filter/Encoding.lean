import Mathlib.Data.List.Nodup
import RequestSql.Filter.Wire

/-!
# The JSON forms of a filter

A filter is written as JSON in one way and may be written in many: any node of it, however
deep, may list its members in another order, have members that no one asks for, leave out
`negated` where it is false, or be the array of its kind and its fields. All forms of a filter
are read as this filter, and the one that is written is among them, so nothing is lost when a
filter is passed on as JSON. Its numbers have to be finite, as JSON has no others. How deep it
may be is no matter here: that is a limit on reading the text of a JSON value.

A node is read by looking its members up by name, so of a node in either form only two things
matter: what is found under the name of each field, and that `negated` is false where nothing
is found. The rest is an induction on the nodes.

Key definitions: `NodeForm`, `Filter.Form`, `Filter.IsFinite`, `NodeForm.Gives`.
Key theorems: `Filter.ofNode?_eq`, `Filter.exists_node?_of_form`, `Filter.Form.ofNode?`,
`every_form_reads_back`.
-/

namespace RequestSql

/-! ### Forms -/

/-- What a node may keep of its fields: all of them, or all but a `negated` that is false. -/
def KeepsOf (fields kept : List (String × Json)) : Prop :=
  kept = fields ∨ ("negated", .bool false) ∈ fields ∧ kept = fields.filter (·.1 != "negated")

/-- The forms of a node of a kind with its fields. -/
inductive NodeForm (kind : String) (fields : List (String × Json)) : Json → Prop where
  /-- The kind and what is kept of the fields, among members of other names, in any order. -/
  | object {kept added members : List (String × Json)} :
      KeepsOf fields kept → (∀ member ∈ added, member.1 ∉ "kind" :: fields.map (·.1)) →
        members.Perm (("kind", .text kind) :: kept ++ added) →
          NodeForm kind fields (.object members)
  /-- The kind and then all fields. -/
  | array : NodeForm kind fields (.array (.text kind :: fields.map (·.2)))

namespace Filter

/-- The forms of a filter: each of its nodes is in one of the forms of a node. -/
inductive Form : Filter → Json → Prop where
  | logical {combinator : Combinator} {negated : Bool} {left right : Filter} {l r json : Json} :
      Form left l → Form right r →
        NodeForm "logical" [("combinator", .text (combinatorName combinator)),
          ("negated", .bool negated), ("left", l), ("right", r)] json →
            Form (.logical combinator negated left right) json
  | text {path : FieldPath} {op : TextOp} {value : String} {negated : Bool} {json : Json} :
      NodeForm "string" [("field_path", path.toJson), ("op", .text (textOpName op)),
        ("value", .text value), ("negated", .bool negated)] json →
          Form (.text path op value negated) json
  | number {path : FieldPath} {op : NumberOp} {value : Binary64} {negated : Bool}
      {json : Json} :
      NodeForm "number" [("field_path", path.toJson), ("op", .text (numberOpName op)),
        ("value", .ofBinary64 value), ("negated", .bool negated)] json →
          Form (.number path op value negated) json
  | null {path : FieldPath} {negated : Bool} {json : Json} :
      NodeForm "null" [("field_path", path.toJson), ("negated", .bool negated)] json →
        Form (.null path negated) json
  | unsupported {json : Json} : NodeForm "unsupported" [] json → Form .unsupported json

/-- Every number of the filter is finite. -/
def IsFinite : Filter → Prop
  | logical _ _ left right => left.IsFinite ∧ right.IsFinite
  | text .. => True
  | number _ _ value _ => value.isFinite = true
  | null .. => True
  | unsupported => True

end Filter

theorem KeepsOf.subset {fields kept : List (String × Json)} (h : KeepsOf fields kept) :
    kept ⊆ fields := by
  rcases h with rfl | ⟨-, rfl⟩
  · exact List.Subset.refl _
  · exact List.filter_subset_self _

/-- The object that begins with the kind is a form of the node. -/
theorem NodeForm.written (kind : String) (fields : List (String × Json)) :
    NodeForm kind fields (.object (("kind", .text kind) :: fields)) := by
  have hadded : ∀ member ∈ ([] : List (String × Json)),
      member.1 ∉ "kind" :: fields.map (·.1) := by simp
  refine .object (.inl rfl) hadded ?_
  rw [List.append_nil]

/-- What is written of a filter is a form of it. -/
theorem Filter.form_toJson (f : Filter) : f.Form f.toJson := by
  induction f with
  | logical combinator negated left right ihl ihr => exact .logical ihl ihr (.written _ _)
  | text path op value negated => exact .text (.written _ _)
  | number path op value negated => exact .number (.written _ _)
  | null path negated => exact .null (.written _ _)
  | unsupported => exact .unsupported (.written _ _)

/-! ### Members -/

/-- A name under which there is one value only is looked up as this value. -/
theorem Json.lookup_eq_some {members : List (String × Json)} {name : String} {value : Json}
    (hmem : (name, value) ∈ members) (hunique : ∀ other, (name, other) ∈ members → other = value) :
    members.lookup name = some value := by
  cases hlookup : members.lookup name with
  | none =>
    have hne := List.lookup_eq_none_iff.1 hlookup _ hmem
    simp at hne
  | some other => rw [hunique other (mem_of_lookup hlookup)]

/-- What the members of a node have to give so that the node is read as one with these fields. -/
structure NodeForm.Gives (fields members : List (String × Json)) : Prop where
  field : ∀ {name : String} {value : Json}, (name, value) ∈ fields → name ≠ "negated" →
    members.lookup name = some value
  negated : ∀ {negated : Bool}, ("negated", .bool negated) ∈ fields →
    Json.defaulted members "negated" false Json.bool? = some negated

namespace NodeForm

theorem gives_of_lookup {fields members : List (String × Json)}
    (h : ∀ {name : String} {value : Json}, (name, value) ∈ fields →
      members.lookup name = some value) : Gives fields members := by
  refine ⟨fun hmem _ => h hmem, fun hmem => ?_⟩
  rw [Json.defaulted, h hmem]
  rfl

/-- Under distinct names there is one value each. -/
theorem value_unique {fields : List (String × Json)} (hnodup : (fields.map (·.1)).Nodup)
    {name : String} {value other : Json} (hvalue : (name, value) ∈ fields)
    (hother : (name, other) ∈ fields) : other = value :=
  congrArg Prod.snd (List.inj_on_of_nodup_map hnodup hother hvalue rfl)

/-- Fields under distinct names give themselves. -/
theorem gives_self {fields : List (String × Json)} (hnodup : (fields.map (·.1)).Nodup) :
    Gives fields fields :=
  gives_of_lookup fun hmem => Json.lookup_eq_some hmem fun _ => value_unique hnodup hmem

section Object

variable {kind : String} {fields kept added members : List (String × Json)}
  (hkind : "kind" ∉ fields.map (·.1))
  (hadded : ∀ member ∈ added, member.1 ∉ "kind" :: fields.map (·.1))
  (hperm : members.Perm (("kind", .text kind) :: kept ++ added))
  (hnodup : (fields.map (·.1)).Nodup)

include hkind hadded hperm

/-- The members of an object under the name of a field are the fields that it keeps. -/
theorem mem_iff_mem_kept {name : String} {value : Json} (hname : name ∈ fields.map (·.1)) :
    (name, value) ∈ members ↔ (name, value) ∈ kept := by
  rw [hperm.mem_iff, List.cons_append, List.mem_cons, List.mem_append]
  constructor
  · rintro (heq | hmem | hmem)
    · obtain ⟨rfl, -⟩ := Prod.mk.inj heq
      exact absurd hname hkind
    · exact hmem
    · exact absurd (List.mem_cons_of_mem _ hname) (hadded _ hmem)
  · intro hmem
    exact .inr (.inl hmem)

/-- The kind is found under its name. -/
theorem lookup_kind (hkept : KeepsOf fields kept) :
    members.lookup "kind" = some (.text kind) := by
  refine Json.lookup_eq_some (hperm.mem_iff.2 (List.mem_cons_self ..)) fun other hother => ?_
  rcases List.mem_append.1 (hperm.mem_iff.1 hother) with hmem | hmem
  · rcases List.mem_cons.1 hmem with heq | hmem
    · exact (Prod.mk.inj heq).2
    · exact absurd (List.mem_map_of_mem (f := (·.1)) (hkept.subset hmem)) hkind
  · exact absurd (List.mem_cons_self ..) (hadded _ hmem)

include hnodup

/-- A field that is kept is found under its name. -/
theorem lookup_of_mem_kept (hkept : KeepsOf fields kept) {name : String} {value : Json}
    (hmem : (name, value) ∈ kept) : members.lookup name = some value := by
  have hname : name ∈ fields.map (·.1) := List.mem_map_of_mem (f := (·.1)) (hkept.subset hmem)
  refine Json.lookup_eq_some ?_ fun other hother => ?_
  · exact (mem_iff_mem_kept hkind hadded hperm hname).2 hmem
  · have hother := (mem_iff_mem_kept hkind hadded hperm hname).1 hother
    exact value_unique hnodup (hkept.subset hmem) (hkept.subset hother)

/-- The members of an object give the fields of the node. -/
theorem gives_object (hkept : KeepsOf fields kept) : Gives fields members := by
  have hlookup {name : String} {value : Json} (hmem : (name, value) ∈ kept) :
      members.lookup name = some value :=
    lookup_of_mem_kept hkind hadded hperm hnodup hkept hmem
  rcases hkept with rfl | ⟨hfalse, rfl⟩
  · exact gives_of_lookup hlookup
  · refine ⟨fun hmem hne => hlookup (List.mem_filter.2 ⟨hmem, bne_iff_ne.2 hne⟩),
      fun {negated} hmem => ?_⟩
    -- What has been left out does not come back among the other members.
    have hnone : members.lookup "negated" = none := by
      cases hfound : members.lookup "negated" with
      | none => rfl
      | some value =>
        have hname : "negated" ∈ fields.map (·.1) := List.mem_map_of_mem (f := (·.1)) hmem
        have hkept := (mem_iff_mem_kept hkind hadded hperm hname).1 (Json.mem_of_lookup hfound)
        exact absurd rfl (bne_iff_ne.1 (List.mem_filter.1 hkept).2)
    obtain rfl : negated = false := Json.bool.inj (value_unique hnodup hfalse hmem)
    rw [Json.defaulted, hnone]

end Object

end NodeForm

/-! ### Reading nodes -/

namespace Filter

/-- The filter that the members of a node of a kind are. -/
def ofMembers? (members : List (String × Json)) : Kind → Option Filter
  | .logical => do
    let left ← members.lookup "left"
    let right ← members.lookup "right"
    let combinator ← Json.required members "combinator" combinator?
    return logical combinator (← Json.defaulted members "negated" false Json.bool?)
      (← ofNode? true left) (← ofNode? true right)
  | .text => do
    let op ← Json.required members "op" textOp?
    return text (← Json.required members "field_path" FieldPath.ofJson?) op
      (← Json.required members "value" Json.text?)
      (← Json.defaulted members "negated" false Json.bool?)
  | .number => do
    let op ← Json.required members "op" numberOp?
    return number (← Json.required members "field_path" FieldPath.ofJson?) op
      (← Json.required members "value" Json.binary64?)
      (← Json.defaulted members "negated" false Json.bool?)
  | .null => do
    return null (← Json.required members "field_path" FieldPath.ofJson?)
      (← Json.defaulted members "negated" false Json.bool?)
  | .unsupported => some unsupported

/-- A node is read by its kind and its members. -/
theorem ofNode?_eq {nested : Bool} {json : Json} {kind : Kind} {members : List (String × Json)}
    (h : node? nested json = some (kind, members)) :
    ofNode? nested json = ofMembers? members kind := by
  rw [ofNode?]
  split
  · next hnone => rw [h] at hnone; cases hnone
  · next hsome =>
    obtain ⟨rfl, rfl⟩ := Prod.mk.inj (Option.some.inj (h.symm.trans hsome))
    cases kind with
    | logical =>
      simp only [ofMembers?]
      split
      · next hleft hright => rw [hleft, hright]; rfl
      · next hnone =>
        cases hleft : members.lookup "left" with
        | none => rfl
        | some left =>
          cases hright : members.lookup "right" with
          | none => rfl
          | some right => exact absurd hright (hnone left right hleft)
    | text => rfl
    | number => rfl
    | null => rfl
    | unsupported => rfl

/-- A node in one of its forms is read as a node of its kind, with members that give its
fields. -/
theorem exists_node?_of_form (kind : Kind) {name : String} {fields : List (String × Json)}
    {json : Json} (h : NodeForm name fields json) (nested : Bool)
    (hkind : (kinds.lookup name).getD .unsupported = kind)
    (hfields : fields.map (·.1) = kind.fieldNames) :
    ∃ members, node? nested json = some (kind, members) ∧ NodeForm.Gives fields members := by
  have hnodup : (fields.map (·.1)).Nodup := by
    rw [hfields]
    cases kind <;> decide
  have htag : "kind" ∉ fields.map (·.1) := by
    rw [hfields]
    cases kind <;> decide
  have hread : kind? nested (.text name) = some kind := congrArg some hkind
  cases h with
  | @object kept added members hkept hadded hperm =>
    have htagged := NodeForm.lookup_kind htag hadded hperm hkept
    refine ⟨members, ?_, NodeForm.gives_object htag hadded hperm hnodup hkept⟩
    rw [node?, htagged]
    simp [hread]
  | array =>
    refine ⟨fields, ?_, NodeForm.gives_self hnodup⟩
    have hzip : (fields.map (·.1)).zip (fields.map (·.2)) = fields :=
      (List.zip_of_prod rfl rfl).symm
    simp [node?, hread, Json.record?, ← hfields, hzip]

/-! ### Reading the forms -/

@[simp] theorem combinator?_combinatorName (combinator : Combinator) :
    combinator? (.text (combinatorName combinator)) = some combinator := by
  cases combinator <;> rfl

@[simp] theorem textOp?_textOpName (op : TextOp) : textOp? (.text (textOpName op)) = some op := by
  cases op <;> rfl

@[simp] theorem numberOp?_numberOpName (op : NumberOp) :
    numberOp? (.text (numberOpName op)) = some op := by
  cases op <;> rfl

end Filter

theorem Json.array?_texts (contents : List String) :
    (Json.texts contents).array? Json.text? = some contents := by
  show (contents.map Json.text).mapM Json.text? = some contents
  induction contents with
  | nil => rfl
  | cons content contents ih => simp [ih, Json.text?]

@[simp] theorem FieldPath.ofJson?_toJson (path : FieldPath) :
    FieldPath.ofJson? path.toJson = some path := by
  rw [FieldPath.ofJson?, FieldPath.toJson, Json.array?_texts]
  rfl

/-- A finite number is read as it is written. -/
theorem Json.binary64?_ofBinary64 {x : Binary64} (h : x.isFinite = true) :
    (Json.ofBinary64 x).binary64? = some x := by
  rw [Json.ofBinary64, if_pos h]
  rfl

namespace Filter

/-- Every form of a filter is read as the filter. -/
theorem Form.ofNode? {f : Filter} {json : Json} (h : f.Form json) (hf : f.IsFinite)
    (nested : Bool) : Filter.ofNode? nested json = some f := by
  induction h generalizing nested with
  | @logical combinator negated left right l r json _ _ hform ihl ihr =>
    obtain ⟨members, hnode, hgives⟩ := exists_node?_of_form .logical hform nested rfl rfl
    have hcombinator : members.lookup "combinator" = some (.text (combinatorName combinator)) :=
      hgives.field (by simp) (by decide)
    have hleft : members.lookup "left" = some l := hgives.field (by simp) (by decide)
    have hright : members.lookup "right" = some r := hgives.field (by simp) (by decide)
    have hnegated : Json.defaulted members "negated" false Json.bool? = some negated :=
      hgives.negated (by simp)
    simp [ofNode?_eq hnode, ofMembers?, Json.required, hcombinator, hleft, hright, hnegated,
      ihl hf.1 true, ihr hf.2 true]
  | @text path op value negated json hform =>
    obtain ⟨members, hnode, hgives⟩ := exists_node?_of_form .text hform nested rfl rfl
    have hpath : members.lookup "field_path" = some path.toJson :=
      hgives.field (by simp) (by decide)
    have hop : members.lookup "op" = some (.text (textOpName op)) :=
      hgives.field (by simp) (by decide)
    have hvalue : members.lookup "value" = some (.text value) :=
      hgives.field (by simp) (by decide)
    have hnegated : Json.defaulted members "negated" false Json.bool? = some negated :=
      hgives.negated (by simp)
    simp [ofNode?_eq hnode, ofMembers?, Json.required, hpath, hop, hvalue, hnegated, Json.text?]
  | @number path op value negated json hform =>
    obtain ⟨members, hnode, hgives⟩ := exists_node?_of_form .number hform nested rfl rfl
    have hpath : members.lookup "field_path" = some path.toJson :=
      hgives.field (by simp) (by decide)
    have hop : members.lookup "op" = some (.text (numberOpName op)) :=
      hgives.field (by simp) (by decide)
    have hvalue : members.lookup "value" = some (.ofBinary64 value) :=
      hgives.field (by simp) (by decide)
    have hnegated : Json.defaulted members "negated" false Json.bool? = some negated :=
      hgives.negated (by simp)
    simp [ofNode?_eq hnode, ofMembers?, Json.required, hpath, hop, hvalue, hnegated,
      Json.binary64?_ofBinary64 hf]
  | @null path negated json hform =>
    obtain ⟨members, hnode, hgives⟩ := exists_node?_of_form .null hform nested rfl rfl
    have hpath : members.lookup "field_path" = some path.toJson :=
      hgives.field (by simp) (by decide)
    have hnegated : Json.defaulted members "negated" false Json.bool? = some negated :=
      hgives.negated (by simp)
    simp [ofNode?_eq hnode, ofMembers?, Json.required, hpath, hnegated]
  | unsupported hform =>
    obtain ⟨members, hnode, -⟩ := exists_node?_of_form .unsupported hform nested rfl rfl
    rw [ofNode?_eq hnode]
    rfl

end Filter

/-! ### The main result -/

/-- **Every form of a filter reads back as it.** What is written of a finite filter is one of
its forms, and each of them is read as this filter again. -/
theorem every_form_reads_back (f : Filter) (hf : f.IsFinite) :
    Filter.ofJson? f.toJson = some f ∧ f.Form f.toJson ∧
      ∀ json, f.Form json → Filter.ofJson? json = some f := by
  have hread (json : Json) (hjson : f.Form json) : Filter.ofJson? json = some f :=
    hjson.ofNode? hf false
  exact ⟨hread _ f.form_toJson, f.form_toJson, hread⟩

/-- An object in another order with a member more, and arrays and an object without `negated`
inside it. -/
theorem every_form_reads_back_nested :
    let f : Filter := .logical .and false (.text ⟨["owner", "name"]⟩ .eq "a" false)
      (.logical .or true (.number ⟨["size"]⟩ .ge ⟨0x4014000000000000⟩ false) .unsupported)
    let name : Json := .object [("value", .text "a"), ("op", .text "eq"),
      ("field_path", .texts ["owner", "name"]), ("kind", .text "string")]
    let size : Json := .array [.text "number", .texts ["size"], .text "ge",
      .ofBinary64 ⟨0x4014000000000000⟩, .bool false]
    let either : Json := .array [.text "logical", .text "or", .bool true, size,
      .array [.text "unsupported"]]
    let json : Json := .object [("note", .null), ("kind", .text "logical"),
      ("combinator", .text "and"), ("negated", .bool false), ("left", name), ("right", either)]
    f.IsFinite ∧ f.Form json ∧ Filter.ofJson? json = some f := by
  intro f name size either json
  have hf : f.IsFinite := ⟨trivial, (by decide +kernel : Binary64.isFinite _ = true), trivial⟩
  have hname : (Filter.text ⟨["owner", "name"]⟩ .eq "a" false).Form name := by
    refine .text (.object (.inr ⟨by simp, rfl⟩) (List.forall_mem_nil _) ?_)
    exact List.reverse_perm [("kind", Json.text "string"),
      ("field_path", .texts ["owner", "name"]), ("op", .text "eq"), ("value", .text "a")]
  have hsize : (Filter.number ⟨["size"]⟩ .ge ⟨0x4014000000000000⟩ false).Form size :=
    .number .array
  have hform : f.Form json := by
    refine .logical hname (.logical hsize (.unsupported .array) .array)
      (.object (.inl rfl) (fun member (hmember : member ∈ [("note", .null)]) => ?_) ?_)
    · rw [List.mem_singleton.1 hmember]
      decide
    · exact (List.perm_append_singleton ("note", Json.null) _).symm
  exact ⟨hf, hform, (every_form_reads_back f hf).2.2 json hform⟩

end RequestSql
