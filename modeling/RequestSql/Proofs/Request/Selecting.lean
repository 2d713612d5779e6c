import RequestSql.Proofs.Plan.Preloads
import RequestSql.Proofs.Request.Presence
import RequestSql.Proofs.Request.Sorting

/-!
# The grammar of field selections

Fields are selected by one of two parameters, which say what is wanted or what is not. Each is a
list of field paths between commas, with blanks around them. Blanks are left out twice, around the
whole list and around every path, and the first time makes no difference to the paths: a list is
read as if it had not been trimmed (`parseSelection_trimmed`). So a list is read if each of its
pieces is a field path once it is trimmed, and otherwise the first piece is told that is none.

Resolving a path of a selection looks up nothing but its segments, and a field path has no segment
that is empty.

Key definitions: `Params.fieldList`, `Params.Selects`.
Key theorems: `parseSelection_trimmed`, `Params.readSelection_of_selects`,
`Scope.missing_mem_of_resolveSelection`, `selection_grammar`.
-/

namespace RequestSql

open Text (Blanks)

/-! ### Pieces -/

/-- The text, if it is a field path. -/
def asFieldPath (text : String) : Except RequestError String :=
  if FieldPath.isName text then .ok text else .error (.notFieldPath text)

theorem asFieldPath_eq_ok {text path : String} :
    asFieldPath text = .ok path ↔ IsFieldPath text ∧ text = path := by
  rw [asFieldPath, ← FieldPath.isName_iff]
  by_cases hname : FieldPath.isName text = true <;> simp [hname]

theorem asFieldPath_eq_error {text : String} {e : RequestError} :
    asFieldPath text = .error e ↔ ¬IsFieldPath text ∧ e = .notFieldPath text := by
  rw [asFieldPath, ← FieldPath.isName_iff]
  by_cases hname : FieldPath.isName text = true <;> simp [hname, eq_comm]

/-- Of a piece nothing but the trimmed one is looked at. -/
theorem parseField_eq (piece : String) : parseField piece = asFieldPath (trimmed piece) := rfl

/-! ### Lists -/

section

variable {inverted : Bool} {text : String}

/-- It makes no difference to a list that it has been trimmed. -/
theorem parseSelection_trimmed (inverted : Bool) (text : String) :
    parseSelection inverted (trimmed text) = parseSelection inverted text := by
  have hread : ∀ pieces : List String,
      pieces.mapM parseField = (pieces.map trimmed).mapM asFieldPath := by
    intro pieces
    simp only [List.mapM_map, Function.comp_def, ← parseField_eq]
  have hcomma : Text.isBlank ',' = false := by decide
  rw [parseSelection, parseSelection, hread, hread, map_trimmed_pieces hcomma]

/-- A list is read if all of its pieces are field paths. -/
theorem parseSelection_eq_ok {selection : FieldSelection} :
    parseSelection inverted text = .ok selection ↔
      (∀ piece ∈ Text.pieces ',' text, IsFieldPath (trimmed piece)) ∧
        selection = ⟨(Text.pieces ',' text).map trimmed, inverted⟩ := by
  rw [parseSelection, Outcome.map_eq_ok]
  simp only [Outcome.mapM_eq_ok, parseField_eq, asFieldPath_eq_ok]
  have hpaths : ∀ pieces paths : List String,
      List.Forall₂ (fun piece path => IsFieldPath (trimmed piece) ∧ trimmed piece = path)
        pieces paths ↔
      (∀ piece ∈ pieces, IsFieldPath (trimmed piece)) ∧ pieces.map trimmed = paths := by
    intro pieces paths
    rw [List.forall₂_and_left, ← List.forall₂_eq_eq_eq, List.forall₂_map_left_iff]
  simp only [hpaths]
  constructor
  · rintro ⟨paths, ⟨hall, rfl⟩, rfl⟩
    exact ⟨hall, rfl⟩
  · rintro ⟨hall, rfl⟩
    exact ⟨_, ⟨hall, rfl⟩, rfl⟩

/-- Otherwise the first piece is told that is none. -/
theorem parseSelection_eq_error {e : RequestError} :
    parseSelection inverted text = .error e ↔
      ∃ before piece after, Text.pieces ',' text = before ++ piece :: after ∧
        (∀ p ∈ before, IsFieldPath (trimmed p)) ∧ ¬IsFieldPath (trimmed piece) ∧
        e = .notFieldPath (trimmed piece) := by
  have hfine : ∀ text, (∃ path, asFieldPath text = .ok path) ↔ IsFieldPath text := by
    simp [asFieldPath_eq_ok]
  rw [parseSelection, Outcome.map_eq_error, Outcome.mapM_eq_error]
  simp only [parseField_eq, hfine, asFieldPath_eq_error]

end

/-- What is read as a list is more than blanks. -/
theorem isPresent_of_parseSelection {inverted : Bool} {text : String} {selection : FieldSelection}
    (h : parseSelection inverted text = .ok selection) : IsPresent (some text) := by
  rw [isPresent_some]
  intro hblanks
  have hempty : trimmed text = "" := by rw [trimmed, Text.trim_eq_nil.2 hblanks, String.ofList_nil]
  have hrefused : parseSelection inverted "" = .error (.notFieldPath "") := by
    cases inverted <;> rfl
  rw [← parseSelection_trimmed, hempty, hrefused] at h
  cases h

/-- Field paths with blanks around them, joined by commas, are read back. -/
theorem parseSelection_intercalate (inverted : Bool) {texts paths : List String} (hne : paths ≠ [])
    (h : List.Forall₂ (fun text path => IsFieldPath path ∧ ∃ lead trail, Blanks lead ∧
      Blanks trail ∧ text.toList = lead ++ (path.toList ++ trail)) texts paths) :
    parseSelection inverted (",".intercalate texts) = .ok ⟨paths, inverted⟩ := by
  have hblanks : ∀ {blanks : List Char}, Blanks blanks → ',' ∉ blanks := fun hblanks hmem =>
    Text.ne_of_apart (hblanks _ hmem) (by decide : Text.isBlank ',' = false) rfl
  have htexts : texts ≠ [] := by
    rintro rfl
    cases h
    exact hne rfl
  have hcommas : ∀ text ∈ texts, ',' ∉ text.toList := by
    intro text htext
    obtain ⟨path, -, hpath, lead, trail, hlead, htrail, heq⟩ := Outcome.exists_of_mem_left h htext
    rw [heq, List.mem_append, List.mem_append, not_or, not_or]
    exact ⟨hblanks hlead, hpath.comma_not_mem, hblanks htrail⟩
  have htrimmed : List.Forall₂ (fun text path => IsFieldPath (trimmed text) ∧ trimmed text = path)
      texts paths := by
    refine h.imp fun text path ⟨hpath, hform⟩ => ?_
    have htrim : trimmed text = path := trimmed_eq_iff.2 ⟨hpath.isWord.tight, hform⟩
    exact ⟨by rwa [htrim], htrim⟩
  rw [List.forall₂_and_left, ← List.forall₂_map_left_iff, List.forall₂_eq_eq_eq] at htrimmed
  obtain ⟨hall, rfl⟩ := htrimmed
  rw [parseSelection_eq_ok, Text.pieces_intercalate rfl htexts hcommas]
  exact ⟨hall, rfl⟩

/-! ### Parameters -/

namespace Params

/-- The parameter that lists fields, those that are wanted or those that are not. -/
def fieldList (params : Params) (inverted : Bool) : Option String :=
  if inverted then params.excludeFields else params.fields

/-- The one of the two parameters is the text and is present, the other one is not present. -/
structure Selects (params : Params) (inverted : Bool) (text : String) : Prop where
  given : params.fieldList inverted = some text
  present : IsPresent (some text)
  alone : ¬IsPresent (params.fieldList !inverted)

variable {params : Params}

/-- None of the parameters is present, or both of them, or one of them alone. -/
theorem absent_or_both_or_selects (params : Params) :
    (¬IsPresent params.fields ∧ ¬IsPresent params.excludeFields) ∨
    (IsPresent params.fields ∧ IsPresent params.excludeFields) ∨
    ∃ inverted text, params.Selects inverted text := by
  by_cases hfields : IsPresent params.fields <;>
    by_cases hexcluded : IsPresent params.excludeFields
  · exact .inr (.inl ⟨hfields, hexcluded⟩)
  · obtain ⟨text, hgiven, -⟩ := id hfields
    exact .inr (.inr ⟨false, text, hgiven, hgiven ▸ hfields, hexcluded⟩)
  · obtain ⟨text, hgiven, -⟩ := id hexcluded
    exact .inr (.inr ⟨true, text, hgiven, hgiven ▸ hexcluded, hfields⟩)
  · exact .inl ⟨hfields, hexcluded⟩

theorem readSelection_of_absent (hfields : ¬IsPresent params.fields)
    (hexcluded : ¬IsPresent params.excludeFields) : params.readSelection = .ok none := by
  rw [readSelection, present?_eq_none.2 hfields, present?_eq_none.2 hexcluded]

theorem readSelection_of_both (hfields : IsPresent params.fields)
    (hexcluded : IsPresent params.excludeFields) :
    params.readSelection = .error .selectedAndExcluded := by
  obtain ⟨fields, hgiven, -⟩ := id hfields
  obtain ⟨excluded, hgiven', -⟩ := id hexcluded
  rw [readSelection, hgiven, hgiven', present?_some (hgiven ▸ hfields),
    present?_some (hgiven' ▸ hexcluded)]

/-- One parameter alone is read as if it had not been trimmed. -/
theorem readSelection_of_selects {inverted : Bool} {text : String}
    (h : params.Selects inverted text) :
    params.readSelection = (parseSelection inverted text).map some := by
  obtain ⟨hgiven, hpresent, halone⟩ := h
  rw [← parseSelection_trimmed]
  cases inverted with
  | false =>
    have hfields : params.fields = some text := hgiven
    have hexcluded : present? params.excludeFields = none := present?_eq_none.2 halone
    rw [readSelection, hfields, present?_some hpresent, hexcluded]
  | true =>
    have hexcluded : params.excludeFields = some text := hgiven
    have hfields : present? params.fields = none := present?_eq_none.2 halone
    rw [readSelection, hexcluded, present?_some hpresent, hfields]

theorem readSelection_eq_none :
    params.readSelection = .ok none ↔
      ¬IsPresent params.fields ∧ ¬IsPresent params.excludeFields := by
  constructor
  · intro h
    rcases params.absent_or_both_or_selects with habsent | ⟨hfields, hexcluded⟩ | ⟨_, _, hselects⟩
    · exact habsent
    · rw [readSelection_of_both hfields hexcluded] at h
      cases h
    · rw [readSelection_of_selects hselects] at h
      obtain ⟨_, -, hsome⟩ := Outcome.map_eq_ok.1 h
      cases hsome
  · rintro ⟨hfields, hexcluded⟩
    exact readSelection_of_absent hfields hexcluded

theorem readSelection_eq_error {e : RequestError} :
    params.readSelection = .error e ↔
      (IsPresent params.fields ∧ IsPresent params.excludeFields ∧ e = .selectedAndExcluded) ∨
      ∃ inverted text, params.Selects inverted text ∧ parseSelection inverted text = .error e := by
  constructor
  · intro h
    rcases params.absent_or_both_or_selects with
      ⟨hfields, hexcluded⟩ | ⟨hfields, hexcluded⟩ | ⟨inverted, text, hselects⟩
    · rw [readSelection_of_absent hfields hexcluded] at h
      cases h
    · rw [readSelection_of_both hfields hexcluded] at h
      exact .inl ⟨hfields, hexcluded, (Except.error.inj h).symm⟩
    · rw [readSelection_of_selects hselects] at h
      exact .inr ⟨inverted, text, hselects, Outcome.map_eq_error.1 h⟩
  · rintro (⟨hfields, hexcluded, rfl⟩ | ⟨inverted, text, hselects, h⟩)
    · exact readSelection_of_both hfields hexcluded
    · rw [readSelection_of_selects hselects]
      exact Outcome.map_eq_error.2 h

theorem readSelection_eq_some {selection : FieldSelection} :
    params.readSelection = .ok (some selection) ↔
      ∃ inverted text, params.Selects inverted text ∧
        parseSelection inverted text = .ok selection := by
  constructor
  · intro h
    rcases params.absent_or_both_or_selects with
      ⟨hfields, hexcluded⟩ | ⟨hfields, hexcluded⟩ | ⟨inverted, text, hselects⟩
    · rw [readSelection_of_absent hfields hexcluded] at h
      cases h
    · rw [readSelection_of_both hfields hexcluded] at h
      cases h
    · rw [readSelection_of_selects hselects] at h
      obtain ⟨_, hread, hsome⟩ := Outcome.map_eq_ok.1 h
      obtain rfl := Option.some.inj hsome
      exact ⟨inverted, text, hselects, hread⟩
  · rintro ⟨inverted, text, hselects, h⟩
    rw [readSelection_of_selects hselects]
    exact Outcome.map_eq_ok.2 ⟨selection, h, rfl⟩

end Params

/-! ### Resolving -/

theorem IsFieldPath.empty_not_mem {text : String} (h : IsFieldPath text) :
    "" ∉ (FieldPath.ofDotted text).segments := by
  have hname := FieldPath.isName_iff.2 h
  intro hmem
  have hempty := List.all_eq_true.1 hname "" hmem
  revert hempty
  decide

namespace Scope

variable {scope : Scope} {entityName missing : String}

theorem missing_mem_of_follow {catalog : Catalog} {hops : List String} {name : String}
    {entity : Entity}
    (h : follow catalog name entity hops = .error (.unknownField entityName missing)) :
    missing ∈ hops := by
  induction hops generalizing name entity with
  | nil => cases h
  | cons hop hops ih =>
    rw [follow] at h
    split at h
    · obtain ⟨-, rfl⟩ := CompileError.unknownField.inj (Except.error.inj h)
      exact List.mem_cons_self ..
    · split at h
      · cases h
      · exact List.mem_cons_of_mem _ (ih h)

/-- The name that a path lacks is one of its segments, if it has any. -/
theorem missing_mem_of_resolve {path : FieldPath} (hne : path.segments ≠ [])
    (h : scope.resolve path = .error (.unknownField entityName missing)) :
    missing ∈ path.segments := by
  unfold resolve at h
  split at h
  · next hnone => exact absurd (List.getLast?_eq_none_iff.1 hnone) hne
  · next field hfield =>
    simp only at h
    split at h
    · next hfollow =>
      obtain rfl := Except.error.inj h
      exact List.dropLast_subset _ (missing_mem_of_follow hfollow)
    · split at h
      · cases h
      · unfold columnOf at h
        split at h
        · next hcolumn =>
          split at hcolumn <;> cases hcolumn
          obtain ⟨-, rfl⟩ := CompileError.unknownField.inj (Except.error.inj h)
          exact List.mem_of_getLast? hfield
        · cases h

/-- The name that a path of a selection lacks is one of its segments. -/
theorem missing_mem_of_resolveSelection {path : String}
    (h : scope.resolveSelection path = .error (.unknownField entityName missing)) :
    missing ∈ (FieldPath.ofDotted path).segments := by
  by_cases hdot : '.' ∈ path.toList
  · rw [resolveSelection_of_mem hdot, Outcome.map_eq_error] at h
    exact missing_mem_of_resolve (FieldPath.recoverable_ofDotted path).segments_ne_nil h
  · rw [resolveSelection, if_neg (mt List.contains_iff_mem.1 hdot)] at h
    rw [FieldPath.single_of_not_mem hdot, List.mem_singleton]
    split at h
    · cases h
    · split at h
      · cases h
      · exact (CompileError.unknownField.inj (Except.error.inj h)).2.symm

/-- The association that a path of a selection needs is one of its segments. -/
theorem needed_mem_of_resolveSelection {path name : String}
    (h : scope.resolveSelection path = .ok (some name)) :
    name ∈ (FieldPath.ofDotted path).segments := by
  have hneeded : scope.needed? path = some name := (resolveSelection_eq_needed? h).symm
  unfold needed? at hneeded
  split at hneeded
  · next hsegments =>
    obtain rfl := Option.some.inj (Option.ite_none_right_eq_some.1 hneeded).2
    rw [hsegments]
    exact List.mem_cons_self ..
  · next hsegments =>
    obtain rfl := Option.some.inj hneeded
    rw [hsegments]
    exact List.mem_cons_self ..
  · cases hneeded

end Scope

/-! ### The main result -/

/-- **The grammar of field selections.** Nothing is selected if and only if neither parameter is
present, and it is refused that both are. Where one of them is present alone, its pieces between
commas are selected if all of them are field paths once they are trimmed, and otherwise the first
one is told that is not. Field paths with blanks around them, joined by commas, are read back. And
where a path that has been accepted is resolved, nothing without a name is looked up. -/
theorem selection_grammar (params : Params) :
    (params.readSelection = .ok none ↔
      ¬IsPresent params.fields ∧ ¬IsPresent params.excludeFields) ∧
    (∀ e, params.readSelection = .error e ↔
      (IsPresent params.fields ∧ IsPresent params.excludeFields ∧ e = .selectedAndExcluded) ∨
      ∃ inverted text, params.Selects inverted text ∧
        ∃ before piece after, Text.pieces ',' text = before ++ piece :: after ∧
          (∀ p ∈ before, IsFieldPath (trimmed p)) ∧ ¬IsFieldPath (trimmed piece) ∧
          e = .notFieldPath (trimmed piece)) ∧
    (∀ selection, params.readSelection = .ok (some selection) ↔
      ∃ inverted text, params.Selects inverted text ∧
        (∀ piece ∈ Text.pieces ',' text, IsFieldPath (trimmed piece)) ∧
        selection = ⟨(Text.pieces ',' text).map trimmed, inverted⟩) ∧
    (∀ inverted texts paths, paths ≠ [] →
      List.Forall₂ (fun text path => IsFieldPath path ∧ ∃ lead trail, Blanks lead ∧
        Blanks trail ∧ text.toList = lead ++ (path.toList ++ trail)) texts paths →
      params.fieldList inverted = some (",".intercalate texts) →
      ¬IsPresent (params.fieldList !inverted) →
        params.readSelection = .ok (some ⟨paths, inverted⟩)) ∧
    (∀ selection, params.readSelection = .ok (some selection) →
      ∀ path ∈ selection.fields, "" ∉ (FieldPath.ofDotted path).segments ∧
        ∀ scope : Scope, scope.resolveSelection path ≠ .ok (some "") ∧
          ∀ entityName, scope.resolveSelection path ≠ .error (.unknownField entityName "")) := by
  refine ⟨Params.readSelection_eq_none, fun e => ?_, fun selection => ?_, ?_, ?_⟩
  · rw [Params.readSelection_eq_error]
    simp only [parseSelection_eq_error]
  · rw [Params.readSelection_eq_some]
    simp only [parseSelection_eq_ok]
  · intro inverted texts paths hne hforms hgiven halone
    have hread := parseSelection_intercalate inverted hne hforms
    exact Params.readSelection_eq_some.2
      ⟨inverted, _, ⟨hgiven, isPresent_of_parseSelection hread, halone⟩, hread⟩
  · intro selection h path hpath
    obtain ⟨inverted, text, -, hread⟩ := Params.readSelection_eq_some.1 h
    obtain ⟨hall, rfl⟩ := parseSelection_eq_ok.1 hread
    obtain ⟨piece, hpiece, rfl⟩ := List.mem_map.1 hpath
    have hempty := (hall piece hpiece).empty_not_mem
    exact ⟨hempty, fun scope =>
      ⟨fun hok => hempty (Scope.needed_mem_of_resolveSelection hok),
        fun entityName herror => hempty (Scope.missing_mem_of_resolveSelection herror)⟩⟩

/-- Blanks of other sorts around the list and around the paths are left out, a parameter of blanks
does not count beside it, and of two pieces that are wrong the first one is told. -/
theorem selection_grammar_of_blanks :
    let both := { Params.empty with
      fields := some (",".intercalate ["\u2003größe ", "owner.city\t\n"]),
      excludeFields := some " \u00a0" }
    both.readSelection = .ok (some ⟨["größe", "owner.city"], false⟩) ∧
    (∀ scope : Scope, scope.resolveSelection "owner.city" ≠ .ok (some "")) ∧
    { Params.empty with excludeFields := some "\tname , owner..id,x;" }.readSelection =
      .error (.notFieldPath "owner..id") := by
  intro both
  have hpath : ∀ path ∈ ["größe", "owner.city", "name"], IsFieldPath path := fun path hpath =>
    FieldPath.isName_iff.1 ((by decide +kernel :
      ∀ path ∈ ["größe", "owner.city", "name"], FieldPath.isName path = true) path hpath)
  have hread : both.readSelection = .ok (some ⟨["größe", "owner.city"], false⟩) := by
    refine (selection_grammar both).2.2.2.1 false ["\u2003größe ", "owner.city\t\n"] _
      (List.cons_ne_nil _ _) (.cons ?_ (.cons ?_ .nil)) rfl ?_
    · exact ⟨hpath _ (by decide), ['\u2003'], [' '], by decide, by decide, by decide⟩
    · exact ⟨hpath _ (by decide), [], ['\t', '\n'], by decide, by decide, by decide⟩
    · exact mt isPresent_some.1 (by decide)
  refine ⟨hread, fun scope => ((selection_grammar both).2.2.2.2 _ hread _ ?_).2 scope |>.1, ?_⟩
  · decide
  · have hname : IsFieldPath (trimmed "\tname ") := hpath "name" (by decide)
    have howner : ¬IsFieldPath (trimmed " owner..id") :=
      mt FieldPath.isName_iff.2 (by decide +kernel)
    exact ((selection_grammar _).2.1 _).2 (.inr ⟨true, "\tname , owner..id,x;",
      ⟨rfl, isPresent_some.2 (by decide), not_isPresent_none⟩,
      ["\tname "], " owner..id", ["x;"], by decide +kernel, by simpa using hname, howner,
      by decide +kernel⟩)

end RequestSql
