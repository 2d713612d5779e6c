import RequestSql.Proofs.Filter.Printing
import RequestSql.Proofs.Outcome
import RequestSql.Request.Params

/-!
# The grammar of sort parameters

A sort parameter is criteria between commas. A criterion is a field path and perhaps a direction
behind it, with blanks around the two; without a direction it ascends. `CriterionForm` says just
this, and a piece between commas is read as a criterion if and only if it has the form of it
(`parseCriterion_eq_ok`). So a parameter is read if every piece has the form of a criterion, and
otherwise the first piece that has none is told.

Since no form has a comma in it, criteria that are written in any of their forms and joined by
commas are read back.

Key definitions: `IsFieldPath`, `CriterionForm`, `refusal`.
Key theorems: `FieldPath.isName_iff`, `parseCriterion_eq_ok`, `parseCriterion_eq_error`,
`sorting_grammar`.
-/

namespace RequestSql

open Text (Blanks IsWord HasWords NotAhead)

/-! ### Field paths -/

/-- Segments that are not empty and consist of word characters, with points between them. -/
def IsFieldPath (text : String) : Prop :=
  ∃ segments, segments ≠ [] ∧
    (∀ segment ∈ segments, segment ≠ "" ∧ ∀ c ∈ segment.toList, Text.isWordChar c = true) ∧
    text = ".".intercalate segments

theorem FieldPath.isName_iff {text : String} : isName text = true ↔ IsFieldPath text := by
  have hsegments : ∀ segments : List String,
      segments.all (fun segment => segment != "" && segment.toList.all Text.isWordChar) = true ↔
        ∀ segment ∈ segments, segment ≠ "" ∧ ∀ c ∈ segment.toList, Text.isWordChar c = true := by
    simp
  rw [isName, hsegments]
  constructor
  · intro h
    exact ⟨_, (recoverable_ofDotted text).segments_ne_nil, h, (toDotted_ofDotted text).symm⟩
  · rintro ⟨segments, hne, h, rfl⟩
    have hpoint : ∀ segment ∈ segments, '.' ∉ segment.toList := by
      intro segment hsegment hmem
      have hword := (h segment hsegment).2 '.' hmem
      revert hword
      decide
    have hread : ofDotted (toDotted ⟨segments⟩) = ⟨segments⟩ :=
      Recoverable.ofDotted_toDotted ⟨hne, hpoint⟩
    rw [toDotted] at hread
    rwa [hread]

namespace IsFieldPath

variable {text : String}

theorem continuesPath (h : IsFieldPath text) : ∀ c ∈ text.toList, Lexeme.continuesPath c = true := by
  obtain ⟨segments, -, hsegments, rfl⟩ := h
  rw [String.toList_intercalate]
  refine Text.forall_mem_intercalate (List.all_eq_true.1 (by decide)) fun part hpart c hc => ?_
  obtain ⟨segment, hsegment, rfl⟩ := List.mem_map.1 hpart
  rw [Lexeme.continuesPath, (hsegments segment hsegment).2 c hc, Bool.true_or]

theorem isWord (h : IsFieldPath text) : IsWord text.toList := by
  refine Text.isWord_of_sort (by decide +kernel) (fun hnil => ?_) h.continuesPath
  have hname := FieldPath.isName_iff.2 h
  rw [String.toList_eq_nil_iff.1 hnil] at hname
  revert hname
  decide

theorem comma_not_mem (h : IsFieldPath text) : ',' ∉ text.toList := by
  intro hmem
  have hcomma := h.continuesPath ',' hmem
  revert hcomma
  decide

end IsFieldPath

/-! ### Criteria -/

/-- What a direction is called. -/
def directionName (descending : Bool) : String := if descending then "desc" else "asc"

/-- A word is a direction if it is its name in any case. -/
theorem direction?_eq_some {word : List Char} {descending : Bool} :
    direction? word = some descending ↔ lowerCase word = (directionName descending).toList := by
  by_cases hasc : lowerCase word = "asc".toList
  · rw [direction?, if_pos hasc, hasc]
    cases descending <;> decide
  · rw [direction?, if_neg hasc]
    by_cases hdesc : lowerCase word = "desc".toList
    · rw [if_pos hdesc, hdesc]
      cases descending <;> decide
    · rw [if_neg hdesc]
      cases descending with
      | false => exact iff_of_false nofun hasc
      | true => exact iff_of_false nofun hdesc

section

variable {word : List Char} {descending : Bool}

/-- Whether a character is a letter of a direction. -/
def isDirectionLetter (c : Char) : Bool := ['a', 'c', 'd', 'e', 's'].contains c.toLower

theorem isDirectionLetter_of_mem (h : lowerCase word = (directionName descending).toList) :
    ∀ c ∈ word, isDirectionLetter c = true := by
  have hall : word.all isDirectionLetter =
      (lowerCase word).all (['a', 'c', 'd', 'e', 's'].contains ·) := List.all_map.symm
  rw [h] at hall
  refine List.all_eq_true.1 (hall.trans ?_)
  cases descending <;> decide

theorem isWord_of_direction (h : lowerCase word = (directionName descending).toList) :
    IsWord word := by
  refine Text.isWord_of_sort (by decide +kernel) ?_ (isDirectionLetter_of_mem h)
  rintro rfl
  cases descending <;> cases h

end

/-- The texts that say a criterion: a field path, and behind it in any case the direction, which
may be left out if it ascends. -/
inductive CriterionForm : List Char → SortCriterion → Prop
  | bare {lead trail : List Char} {tag : String} : Blanks lead → IsFieldPath tag → Blanks trail →
      CriterionForm (lead ++ (tag.toList ++ trail)) ⟨tag, false⟩
  | directed {lead gap word trail : List Char} {tag : String} {descending : Bool} :
      Blanks lead → IsFieldPath tag → Blanks gap → gap ≠ [] →
      lowerCase word = (directionName descending).toList → Blanks trail →
      CriterionForm (lead ++ (tag.toList ++ (gap ++ (word ++ trail)))) ⟨tag, descending⟩

/-- How a piece is refused: trimmed, or as it is written if nothing would be left. -/
def refusal (piece : String) : RequestError :=
  .sorting (if Blanks piece.toList then piece else String.ofList (Text.trim piece.toList))

/-! ### Words of a piece -/

section

variable {text word other lead gap trail : List Char}

theorem hasWords_one (hlead : Blanks lead) (hword : IsWord word) (htrail : Blanks trail) :
    HasWords (lead ++ (word ++ trail)) [word] :=
  .word hlead hword htrail.notAhead (.blanks htrail)

theorem hasWords_two (hlead : Blanks lead) (hword : IsWord word) (hgap : Blanks gap)
    (hne : gap ≠ []) (hother : IsWord other) (htrail : Blanks trail) :
    HasWords (lead ++ (word ++ (gap ++ (other ++ trail)))) [word, other] := by
  refine .word hlead hword ?_ (.word hgap hother htrail.notAhead (.blanks htrail))
  obtain ⟨c, gap, rfl⟩ := List.exists_cons_of_ne_nil hne
  exact .cons (by simp [hgap c]) _

theorem exists_of_hasWords_one (h : HasWords text [word]) :
    ∃ lead trail, Blanks lead ∧ Blanks trail ∧ text = lead ++ (word ++ trail) := by
  cases h with
  | word hlead _ _ hrest =>
    cases hrest with
    | blanks htrail => exact ⟨_, _, hlead, htrail, rfl⟩

/-- Between two words there are blanks. -/
theorem exists_of_hasWords_two (h : HasWords text [word, other]) :
    ∃ lead gap trail, Blanks lead ∧ Blanks gap ∧ gap ≠ [] ∧ Blanks trail ∧
      text = lead ++ (word ++ (gap ++ (other ++ trail))) := by
  cases h with
  | word hlead _ hnext hrest =>
    cases hrest with
    | @word gap _ rest _ hgap hother _ hrest =>
      cases hrest with
      | blanks htrail =>
        refine ⟨_, _, _, hlead, hgap, ?_, htrail, rfl⟩
        rintro rfl
        obtain ⟨c, other, rfl⟩ := List.exists_cons_of_ne_nil hother.ne_nil
        have hword := hother.isBlank_eq_false c (List.mem_cons_self ..)
        have hblank : (!Text.isBlank c) = false := hnext c rfl
        rw [hword] at hblank
        cases hblank

end

/-! ### Reading a piece -/

/-- **A piece is read as a criterion if and only if it has the form of it.** -/
theorem parseCriterion_eq_ok {piece : String} {c : SortCriterion} :
    parseCriterion piece = .ok c ↔ CriterionForm piece.toList c := by
  constructor
  · intro h
    unfold parseCriterion at h
    split at h
    · cases h
    · next tag hwords =>
      obtain ⟨lead, trail, hlead, htrail, htext⟩ :=
        exists_of_hasWords_one (Text.words_eq_iff.1 hwords)
      simp only at h
      split at h
      · next hname =>
        cases h
        have hform := CriterionForm.bare hlead (FieldPath.isName_iff.1 hname) htrail
        rwa [String.toList_ofList, ← htext] at hform
      · cases h
    · next tag word hwords =>
      obtain ⟨lead, gap, trail, hlead, hgap, hne, htrail, htext⟩ :=
        exists_of_hasWords_two (Text.words_eq_iff.1 hwords)
      simp only at h
      split at h
      · next descending hdirection =>
        split at h
        · next hname =>
          cases h
          have hform := CriterionForm.directed hlead (FieldPath.isName_iff.1 hname) hgap hne
            (direction?_eq_some.1 hdirection) htrail
          rwa [String.toList_ofList, ← htext] at hform
        · cases h
      · cases h
    · cases h
  · intro h
    unfold parseCriterion
    generalize piece.toList = text at h
    cases h with
    | bare hlead htag htrail =>
      simp only [Text.words_eq_iff.2 (hasWords_one hlead htag.isWord htrail), String.ofList_toList,
        if_pos (FieldPath.isName_iff.2 htag)]
    | directed hlead htag hgap hne hword htrail =>
      have hwords := Text.words_eq_iff.2
        (hasWords_two hlead htag.isWord hgap hne (isWord_of_direction hword) htrail)
      simp only [hwords, direction?_eq_some.2 hword, String.ofList_toList,
        if_pos (FieldPath.isName_iff.2 htag)]

/-- A piece that is no criterion is refused in one way, whatever is wrong with it. -/
theorem eq_refusal_of_error {piece : String} {e : RequestError}
    (h : parseCriterion piece = .error e) : e = refusal piece := by
  unfold parseCriterion at h
  by_cases hblanks : Blanks piece.toList
  · rw [Text.words_eq_nil.2 hblanks] at h
    cases h
    rw [refusal, if_pos hblanks]
  · rw [refusal, if_neg hblanks]
    split at h
    · next hwords => exact absurd (Text.words_eq_nil.1 hwords) hblanks
    · simp only at h
      split at h <;> cases h
      rfl
    · simp only at h
      split at h
      · split at h <;> cases h
        rfl
      · cases h
        rfl
    · cases h
      rfl

theorem parseCriterion_eq_error {piece : String} {e : RequestError} :
    parseCriterion piece = .error e ↔
      (¬∃ c, CriterionForm piece.toList c) ∧ e = refusal piece := by
  constructor
  · intro h
    refine ⟨?_, eq_refusal_of_error h⟩
    rintro ⟨c, hc⟩
    rw [parseCriterion_eq_ok.2 hc] at h
    cases h
  · rintro ⟨hnone, rfl⟩
    cases h : parseCriterion piece with
    | ok c => exact absurd ⟨c, parseCriterion_eq_ok.1 h⟩ hnone
    | error e => rw [eq_refusal_of_error h]

/-- There are no commas in a criterion. -/
theorem CriterionForm.comma_not_mem {text : List Char} {c : SortCriterion}
    (h : CriterionForm text c) : ',' ∉ text := by
  have hblanks : ∀ {blanks : List Char}, Blanks blanks → ',' ∉ blanks := fun hblanks hmem => by
    have hcomma := hblanks ',' hmem
    revert hcomma
    decide
  cases h with
  | bare hlead htag htrail =>
    simp only [List.mem_append, not_or]
    exact ⟨hblanks hlead, htag.comma_not_mem, hblanks htrail⟩
  | directed hlead htag hgap hne hword htrail =>
    have hcomma : ',' ∉ _ := fun hmem => absurd (isDirectionLetter_of_mem hword ',' hmem) (by decide)
    simp only [List.mem_append, not_or]
    exact ⟨hblanks hlead, htag.comma_not_mem, hblanks hgap, hcomma, hblanks htrail⟩

/-! ### Whole parameters -/

/-- **The grammar of sort parameters.** A parameter is the order of some criteria if and only if
its pieces between commas have the forms of these, one by one. Otherwise the first piece is told
that has the form of none. And criteria in any of their forms, joined by commas, are read back. -/
theorem sorting_grammar :
    (∀ input criteria, parseSorting input = .ok criteria ↔
      List.Forall₂ (fun piece c => CriterionForm piece.toList c) (Text.pieces ',' input) criteria) ∧
    (∀ input e, parseSorting input = .error e ↔
      ∃ before piece after, Text.pieces ',' input = before ++ piece :: after ∧
        (∀ p ∈ before, ∃ c, CriterionForm p.toList c) ∧ (¬∃ c, CriterionForm piece.toList c) ∧
        e = .sorting
          (if Blanks piece.toList then piece else String.ofList (Text.trim piece.toList))) ∧
    (∀ texts criteria, criteria ≠ [] →
      List.Forall₂ (fun text c => CriterionForm text.toList c) texts criteria →
        parseSorting (",".intercalate texts) = .ok criteria) := by
  have hok : ∀ input criteria, parseSorting input = .ok criteria ↔ List.Forall₂
      (fun piece c => CriterionForm piece.toList c) (Text.pieces ',' input) criteria := by
    intro input criteria
    rw [parseSorting, Outcome.mapM_eq_ok]
    simp only [parseCriterion_eq_ok]
  refine ⟨hok, fun input e => ?_, fun texts criteria hne hforms => ?_⟩
  · rw [parseSorting, Outcome.mapM_eq_error]
    simp only [parseCriterion_eq_ok, parseCriterion_eq_error]
    rfl
  · have htexts : texts ≠ [] := by
      rintro rfl
      cases hforms
      exact hne rfl
    have hcommas : ∀ text ∈ texts, ',' ∉ text.toList := fun text htext => by
      obtain ⟨c, -, hform⟩ := Outcome.exists_of_mem_left hforms htext
      exact hform.comma_not_mem
    rw [hok, Text.pieces_intercalate rfl htexts hcommas]
    exact hforms

/-- Three criteria, each with blanks of other sorts, are read back; of two pieces that are wrong
the first one is told, as it is written since it is blank. -/
theorem sorting_grammar_of_three :
    parseSorting (",".intercalate [" größe\tDESC ", "\u3000owner.city", "age\u00a0AsC"]) =
      .ok [⟨"größe", true⟩, ⟨"owner.city", false⟩, ⟨"age", false⟩] ∧
    parseSorting "age, \t ,city up" = .error (.sorting " \t ") := by
  have hpath : ∀ text ∈ ["größe", "owner.city", "age"], IsFieldPath text := fun text htext =>
    FieldPath.isName_iff.1 ((by decide +kernel :
      ∀ text ∈ ["größe", "owner.city", "age"], FieldPath.isName text = true) text htext)
  have hsize : CriterionForm " größe\tDESC ".toList ⟨"größe", true⟩ :=
    @CriterionForm.directed [' '] ['\t'] "DESC".toList [' '] "größe" true (by decide)
      (hpath _ (by decide)) (by decide) (by decide) (by decide) (by decide)
  have hcity : CriterionForm "\u3000owner.city".toList ⟨"owner.city", false⟩ :=
    @CriterionForm.bare ['\u3000'] [] "owner.city" (by decide) (hpath _ (by decide)) (by decide)
  have hage : CriterionForm "age\u00a0AsC".toList ⟨"age", false⟩ :=
    @CriterionForm.directed [] ['\u00a0'] "AsC".toList [] "age" false (by decide)
      (hpath _ (by decide)) (by decide) (by decide) (by decide) (by decide)
  refine ⟨sorting_grammar.2.2 _ _ (List.cons_ne_nil _ _)
    (.cons hsize (.cons hcity (.cons hage .nil))), ?_⟩
  have hbare : CriterionForm "age".toList ⟨"age", false⟩ :=
    @CriterionForm.bare [] [] "age" (by decide) (hpath _ (by decide)) (by decide)
  have hblank : ¬∃ c, CriterionForm " \t ".toList c := (parseCriterion_eq_error.1 rfl).1
  exact (sorting_grammar.2.1 _ _).2
    ⟨["age"], " \t ", ["city up"], rfl, by simpa using ⟨_, hbare⟩, hblank, rfl⟩

end RequestSql
