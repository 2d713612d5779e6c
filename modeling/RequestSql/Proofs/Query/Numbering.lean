import RequestSql.Proofs.Query.Additions
import RequestSql.Proofs.Query.Placeholders

/-!
# Numbered statements

A statement that is made of compiled filters has the placeholders `$1`, `$2` and so on, from
left to right, one for every bound value, whatever the tables and columns of its skeleton
are called. The values are those of the filters, in the order in which these were added, and
then the limit and the offset.

Key definitions: `Clause`, `Select.Fitted`, `windowValues`.
Key theorems: `Select.values_eq`, `Select.placeholders_sql`,
`placeholders_ascend_with_values`.
-/

namespace RequestSql

/-! ### Clauses -/

/-- Pieces whose placeholders are numbered in order, wherever the statement has come to, and
that do not begin with a part of a word. -/
structure Clause (pieces : List Piece) : Prop where
  numbers : ∀ m, Numbers m (boundValues pieces).length (numberedChars m pieces)
  breaks : ∀ m, Breaks (numberedChars m pieces)

theorem breaks_of_blank {cs : List Char} (h : cs.head? = some ' ') (ds : List Char) :
    Breaks (cs ++ ds) := by
  intro c hc
  rw [List.head?_append, h, Option.some_or] at hc
  obtain rfl := Option.some.inj hc
  decide

namespace Clause

variable {a b : List Piece}

theorem nil : Clause [] where
  numbers m := Unmarked.nil.numbers m
  breaks m := by rintro c ⟨⟩

theorem append (ha : Clause a) (hb : Clause b) : Clause (a ++ b) := by
  constructor
  · intro m
    rw [boundValues_append, numberedChars_append, List.length_append]
    exact (ha.numbers m).append (hb.numbers _) (hb.breaks _)
  · intro m
    rw [numberedChars_append]
    exact (ha.breaks m).append (hb.breaks _)

theorem flatMap {α : Type} {f : α → List Piece} {as : List α} (h : ∀ a ∈ as, Clause (f a)) :
    Clause (as.flatMap f) := by
  induction as with
  | nil => exact nil
  | cons a as ih =>
    rw [List.flatMap_cons]
    exact (h a (List.mem_cons_self ..)).append (ih fun b hb => h b (List.mem_cons_of_mem _ hb))

/-- A text that begins with a blank and then pieces in order are a clause. -/
theorem text_cons {content : String} (hblank : content.toList.head? = some ' ')
    (hunmarked : Unmarked content.toList)
    (h : ∀ m, Numbers m (boundValues a).length (numberedChars m a)) :
    Clause (.text content :: a) := by
  constructor
  · intro m
    exact hunmarked.append_numbers (h m)
  · intro m
    exact breaks_of_blank hblank _

/-- A value has a blank before it, so its number is a word of its own. -/
theorem value {label : String} (cs : List Char) (hlabel : label.toList = ' ' :: (cs ++ [' ']))
    (hbare : Bare cs) (value : Value) : Clause [.text label, .value value] := by
  constructor
  · intro m
    have hcs : Unmarked (' ' :: cs) := .of_bare (Bare.append (show Bare [' '] by decide) hbare)
    have h := hcs.append_numbers (Numbers.mark m)
    rw [numberedChars_text, hlabel, numberedChars_value]
    simpa [boundValues, numberedChars, numberedFrom] using h
  · intro m
    rw [numberedChars_text, hlabel]
    exact breaks_of_blank rfl _

end Clause

/-! ### The parts of a statement -/

/-- The values that a window is bound to. -/
def windowValues : Option Window → List Value
  | none => []
  | some window => [.count window.limit, .count window.offset]

/-- Every condition is a text with as many marks as values. -/
def Fitted (conditions : List (String × List Param)) : Prop :=
  ∀ condition ∈ conditions, Marked condition.2.length condition.1.toList

namespace Select

theorem boundValues_windowPieces (window : Option Window) :
    boundValues (windowPieces window) = windowValues window := by
  cases window <;> rfl

theorem clause_windowPieces (window : Option Window) : Clause (windowPieces window) := by
  cases window with
  | none => exact .nil
  | some window =>
    have hlimit : Clause [.text " LIMIT ", .value (.count window.limit)] :=
      .value "LIMIT".toList rfl (by decide) _
    have hoffset : Clause [.text " OFFSET ", .value (.count window.offset)] :=
      .value "OFFSET".toList rfl (by decide) _
    exact hlimit.append hoffset

section Conditions

variable {condition : String × List Param} {conditions : List (String × List Param)}

theorem boundValues_enclosed (h : Marked condition.2.length condition.1.toList) :
    boundValues (enclosed condition) = condition.2.map Param.value := by
  rw [enclosed, List.cons_append, boundValues, boundValues_append, h.boundValues_splice]
  exact List.append_nil _

theorem clause_splice {opening : String} (hblank : opening.toList.head? = some ' ')
    (hbare : Bare opening.toList) (h : Marked condition.2.length condition.1.toList) :
    Clause (.text opening :: splice condition.1 condition.2) := by
  refine Clause.text_cons hblank (.of_bare hbare) fun m => ?_
  rw [h.boundValues_splice, h.numberedChars_splice, List.length_map]
  exact h.numbers m

theorem clause_enclosed {opening : String} (hblank : opening.toList.head? = some ' ')
    (hbare : Bare opening.toList) (h : Marked condition.2.length condition.1.toList) :
    Clause (.text opening :: enclosed condition) := by
  refine Clause.text_cons hblank (.of_bare hbare) fun m => ?_
  have hclosing : Breaks [')'] := .cons (by decide) _
  have hinner := (h.numbers m).append ((Unmarked.of_bare (by decide)).numbers _) hclosing
  have hwhole := (Unmarked.of_bare (show Bare ['('] by decide)).append_numbers hinner
  rw [boundValues_enclosed h, List.length_map, enclosed, List.cons_append, numberedChars_text,
    numberedChars_append, h.numberedChars_splice]
  exact hwhole

theorem clause_wherePieces (h : Fitted conditions) : Clause (wherePieces conditions) := by
  unfold wherePieces
  split
  · exact .nil
  · exact clause_splice rfl (by decide) (h _ (List.mem_singleton.2 rfl))
  · next condition conditions _ =>
    refine Clause.append (clause_enclosed rfl (by decide) (h _ (List.mem_cons_self ..))) ?_
    exact .flatMap fun c hc => clause_enclosed rfl (by decide) (h c (List.mem_cons_of_mem _ hc))

/-- The values of conditions in parentheses, each behind an `AND`. -/
theorem boundValues_conjuncts (h : Fitted conditions) :
    boundValues (conditions.flatMap fun condition => .text " AND " :: enclosed condition) =
      (conditions.flatMap (·.2)).map Param.value := by
  induction conditions with
  | nil => rfl
  | cons condition conditions ih =>
    have hhead := boundValues_enclosed (h condition (List.mem_cons_self ..))
    have htail := ih fun c hc => h c (List.mem_cons_of_mem _ hc)
    rw [List.flatMap_cons, boundValues_append, boundValues, hhead, htail, List.flatMap_cons,
      List.map_append]

theorem boundValues_wherePieces (h : Fitted conditions) :
    boundValues (wherePieces conditions) = (conditions.flatMap (·.2)).map Param.value := by
  unfold wherePieces
  split
  · rfl
  · next text params =>
    have hmarked : Marked params.length text.toList := h _ (List.mem_singleton.2 rfl)
    rw [boundValues, hmarked.boundValues_splice, List.flatMap_singleton]
  · next condition conditions _ =>
    have hhead := boundValues_enclosed (h condition (List.mem_cons_self ..))
    have htail := boundValues_conjuncts fun c hc => h c (List.mem_cons_of_mem _ hc)
    rw [boundValues_append, boundValues, hhead, htail, List.flatMap_cons, List.map_append]

end Conditions

/-! ### Statements -/

theorem unmarked_quotedColumn (column : Column) : Unmarked (quotedColumn column).toList := by
  have hpoint : Unmarked ".".toList := .of_bare (by decide)
  rw [quotedColumn, String.toList_append, String.toList_append]
  exact ((unmarked_quotedName _).append hpoint).append (unmarked_quotedName _)

theorem unmarked_joinText (clause : Join) : Unmarked (joinText clause).toList := by
  have hcondition : Unmarked (joinCondition clause).toList := by
    unfold joinCondition
    split
    · exact .of_bare (by decide)
    · refine .intercalate (.of_bare (by decide)) fun text htext => ?_
      obtain ⟨pair, -, rfl⟩ := List.mem_map.1 htext
      have hequals : Unmarked " = ".toList := .of_bare (by decide)
      rw [String.toList_append, String.toList_append]
      exact ((unmarked_quotedColumn _).append hequals).append (unmarked_quotedColumn _)
  have hjoin : Unmarked " LEFT JOIN ".toList := .of_bare (by decide)
  have hon : Unmarked " ON ".toList := .of_bare (by decide)
  rw [joinText, String.toList_append, String.toList_append, String.toList_append]
  exact ((hjoin.append (unmarked_quotedName _)).append hon).append hcondition

theorem unmarked_headText (s : Select) : Unmarked s.headText.toList := by
  have hselect : Unmarked "SELECT ".toList := .of_bare (by decide)
  have hfrom : Unmarked ".* FROM ".toList := .of_bare (by decide)
  have hjoins : Unmarked (String.join (s.joins.map joinText)).toList := by
    refine .join fun text htext => ?_
    obtain ⟨clause, -, rfl⟩ := List.mem_map.1 htext
    exact unmarked_joinText clause
  rw [headText, String.toList_append, String.toList_append, String.toList_append,
    String.toList_append]
  exact (((hselect.append (unmarked_quotedName _)).append hfrom).append
    (unmarked_quotedName _)).append hjoins

theorem unmarked_orderText (term : OrderTerm) : Unmarked (orderText term).toList := by
  rw [orderText, String.toList_append]
  refine (unmarked_quotedColumn _).append ?_
  split <;> exact .of_bare (by decide)

theorem clause_orderClause (terms : List OrderTerm) : Clause [.text (orderClause terms)] := by
  unfold orderClause
  split
  · exact ⟨fun m => Unmarked.nil.numbers m, fun m => by rintro c ⟨⟩⟩
  · refine .text_cons ?_ ?_ fun m => Unmarked.nil.numbers m
    · rw [String.toList_append]
      rfl
    · rw [String.toList_append]
      refine .append (.of_bare (by decide)) ?_
      refine .intercalate (.of_bare (by decide)) fun text htext => ?_
      obtain ⟨term, -, rfl⟩ := List.mem_map.1 htext
      exact unmarked_orderText term

theorem pieces_eq (s : Select) :
    s.pieces = .text s.headText ::
      (wherePieces s.conditions ++ ([.text (orderClause s.order)] ++ windowPieces s.window)) :=
  rfl

/-- The values are those of the conditions, in order, and then the limit and the offset. -/
theorem values_eq {s : Select} (h : Fitted s.conditions) :
    s.values = (s.conditions.flatMap (·.2)).map Param.value ++ windowValues s.window := by
  rw [values, pieces_eq, boundValues, boundValues_append, boundValues_wherePieces h,
    boundValues_append, boundValues_windowPieces]
  rfl

/-- The placeholders are numbered from one on, one for every value. -/
theorem placeholders_sql {s : Select} (h : Fitted s.conditions) :
    placeholders s.sql = (List.range s.values.length).map fun i => "$" ++ toString (i + 1) := by
  have htail : Clause (wherePieces s.conditions ++
      ([.text (orderClause s.order)] ++ windowPieces s.window)) :=
    (clause_wherePieces h).append ((clause_orderClause _).append (clause_windowPieces _))
  have hnumbers : Numbers 1 s.values.length s.sql.toList := by
    rw [values, sql, toList_numberedText, pieces_eq]
    exact (unmarked_headText s).append_numbers (htail.numbers 1)
  obtain ⟨word, hword, heq⟩ := hnumbers [] [] List.not_mem_nil (by rintro c ⟨⟩)
  rw [List.append_nil, dollarWords, finished_of_not_mem hword, List.append_nil] at heq
  rw [placeholders, heq, marksFrom, List.map_map, List.range'_eq_map_range, List.map_map]
  refine List.map_congr_left fun i _ => ?_
  show String.ofList ('$' :: Nat.toDigits 10 (1 + i)) = "$" ++ toString (i + 1)
  rw [Nat.add_comm, Nat.toString_eq_ofList_toDigits, String.ofList_cons]
  rfl

end Select

/-! ### Compiled filters -/

namespace CompiledFilter

/-- The filter was compiled for an entity of the schema. -/
def Of (schema : Schema) (f : CompiledFilter) : Prop :=
  ∃ entityName scope filter, Scope.of? schema.catalog entityName = .ok scope ∧
    compileFilter scope filter = .ok f

/-- A compiled filter has a text with as many marks as values. -/
theorem Of.marked {schema : Schema} {f : CompiledFilter} (h : f.Of schema)
    {condition : String × List Param} (hcondition : f.condition? = some condition) :
    Marked condition.2.length condition.1.toList := by
  obtain ⟨entityName, scope, filter, hscope, hcompile⟩ := h
  cases filter with
  | none =>
    obtain rfl := Except.ok.inj hcompile
    cases hcondition
  | some filter =>
    obtain ⟨predicate, associations, hpredicate, rfl⟩ := compileFilter_some_eq_ok.1 hcompile
    obtain rfl := Option.some.inj hcondition
    have hnamed := hpredicate.named (Scope.named_of_of? schema.catalog_named hscope)
    exact Predicate.marked hnamed

theorem flatMap_condition? (f : CompiledFilter) :
    f.condition?.toList.flatMap (·.2) = f.params := by
  obtain ⟨predicate, associations⟩ := f
  cases predicate with
  | none => rfl
  | some predicate => exact List.append_nil _

end CompiledFilter

theorem Addition.flatMap_condition? (addition : Addition) :
    addition.condition?.toList.flatMap (·.2) = addition.params := by
  cases addition with
  | filter f => exact f.flatMap_condition?
  | order => rfl
  | join => rfl
  | window => rfl
  | preload => rfl

variable {schema : Schema} {table : String} {additions : List Addition}

theorem fitted_build (h : ∀ f, .filter f ∈ additions → f.Of schema) :
    Fitted (build additions (Select.ofTable table)).conditions := by
  intro condition hcondition
  rw [Select.conditions_build] at hcondition
  obtain ⟨addition, haddition, hmem⟩ := List.mem_flatMap.1 hcondition
  cases addition with
  | filter f => exact (h f haddition).marked (Option.mem_toList.1 hmem)
  | order => cases hmem
  | join => cases hmem
  | window => cases hmem
  | preload => cases hmem

theorem values_build (h : ∀ f, .filter f ∈ additions → f.Of schema) :
    (build additions (Select.ofTable table)).values =
      (additions.flatMap Addition.params).map Param.value ++
        windowValues (lastWindow additions) := by
  have hparams : (fun addition : Addition => addition.condition?.toList.flatMap (·.2)) =
      Addition.params := funext Addition.flatMap_condition?
  have hwindow : (Select.ofTable table).window = none := rfl
  have hconditions : (Select.ofTable table).conditions = [] := rfl
  rw [Select.values_eq (fitted_build h), Select.conditions_build, Select.window_build,
    hconditions, hwindow, Option.or_none, List.nil_append, List.flatMap_assoc, hparams]

/-- **Every value has its placeholder.** The text of a filter that compiles has one mark for
every leaf with a value, and the parameters are the values of these leaves from left to
right. Of any statement that such filters are added to, along with whatever else, the
placeholders are `$1`, `$2` and so on from left to right, one for every bound value; the
values are the parameters of the filters in the order in which these were added, followed by
limit and offset if there is a window. -/
theorem placeholders_ascend_with_values (schema : Schema) :
    (∀ entityName scope f compiled, Scope.of? schema.catalog entityName = .ok scope →
      compileFilter scope (some f) = .ok compiled →
        compiled.params = f.leafValues ∧ compiled.params.length = f.valueLeaves ∧
          compiled.text.toList.count '?' = f.valueLeaves ∧
          ∃ predicate, compiled.predicate = some predicate ∧
            predicate.paramCount = f.valueLeaves) ∧
    ∀ table additions, (∀ f, .filter f ∈ additions → f.Of schema) →
      placeholders (build additions (Select.ofTable table)).sql =
          (List.range (build additions (Select.ofTable table)).values.length).map
            (fun i => "$" ++ toString (i + 1)) ∧
        (build additions (Select.ofTable table)).values =
          (additions.flatMap Addition.params).map Param.value ++
            windowValues (lastWindow additions) := by
  constructor
  · intro entityName scope f compiled hscope hcompiled
    obtain ⟨predicate, associations, hcompile, rfl⟩ := compileFilter_some_eq_ok.1 hcompiled
    have hnamed := hcompile.named (Scope.named_of_of? schema.catalog_named hscope)
    have hparams := hcompile.params_eq
    have hlength : predicate.params.length = f.valueLeaves := by
      rw [hparams, Filter.length_leafValues]
    refine ⟨hparams, hlength, ?_, predicate, rfl, ?_⟩
    · rw [← hlength]
      exact (Predicate.marked hnamed).count_eq
    · rw [← predicate.length_params, hlength]
  · intro table additions h
    exact ⟨Select.placeholders_sql (fitted_build h), values_build h⟩

/-- Two filters with eleven values between them, to which a name with a quote and a `$` in it
makes no difference. -/
theorem placeholders_ascend_past_nine :
    ∃ f g compiledF compiledG, compileFilter Config.itemScope (some f) = .ok compiledF ∧
      compileFilter Config.itemScope (some g) = .ok compiledG ∧
      compiledF.text.toList.count '?' = 8 ∧
      placeholders (build [.filter compiledG, .join ⟨"owner", "a\"$9", []⟩, .window ⟨40, 20⟩,
          .filter compiledF, .order ⟨⟨"b\"", "$0"⟩, true⟩] (Select.ofTable "it$1ems")).sql =
        ["$1", "$2", "$3", "$4", "$5", "$6", "$7", "$8", "$9", "$10", "$11", "$12", "$13"] := by
  let leaf : Filter := .number ⟨["age"]⟩ .ge ⟨0⟩ false
  let pair : Filter := leaf.and (.text ⟨["owner", "city"]⟩ .matching "$1?" true)
  let four : Filter := .logical .or true pair pair
  let f : Filter := .logical .and true four four
  let g : Filter := (leaf.or pair).and (.null ⟨["deleted"]⟩ false)
  obtain ⟨hfilter, hbuild⟩ := placeholders_ascend_with_values Config.demo.schema
  obtain ⟨compiledF, hf⟩ : ∃ c, compileFilter Config.itemScope (some f) = .ok c := ⟨_, rfl⟩
  obtain ⟨compiledG, hg⟩ : ∃ c, compileFilter Config.itemScope (some g) = .ok c := ⟨_, rfl⟩
  obtain ⟨hparamsF, -, hcount, -⟩ := hfilter "Item" Config.itemScope f _ Config.scope_item hf
  obtain ⟨hparamsG, -⟩ := hfilter "Item" Config.itemScope g _ Config.scope_item hg
  refine ⟨f, g, compiledF, compiledG, hf, hg, hcount, ?_⟩
  rw [(hbuild _ _ ?of).1, (hbuild _ _ ?of).2]
  case of =>
    intro h hmem
    simp only [List.mem_cons, Addition.filter.injEq, reduceCtorEq, List.not_mem_nil, or_false,
      false_or] at hmem
    rcases hmem with rfl | rfl
    · exact ⟨_, _, _, Config.scope_item, hg⟩
    · exact ⟨_, _, _, Config.scope_item, hf⟩
  simp only [List.flatMap_cons, Addition.params, hparamsF, hparamsG]
  show ((List.range 13).map fun i => "$" ++ toString (i + 1)) = _
  decide +kernel

end RequestSql
