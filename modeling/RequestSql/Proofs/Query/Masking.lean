import RequestSql.Proofs.Plan.Masking
import RequestSql.Proofs.Query.Numbering

/-!
# Values stay out of the text

Splicing, numbering and building go by the shape, too: a statement with all its values
masked has the text that it had before. So two requests that differ in values only give
statements with the same text, and their bound values differ at most where the requests do.

Key definitions: `Select.masked`, `Operators.entries`.
Key theorems: `splice_masked`, `Select.sql_masked`, `Select.masked_build`,
`values_applyTo_congr`, `values_never_reach_text`.
-/

namespace RequestSql

/-! ### Pieces -/

/-- The value that stands for all values of its kind. -/
def Value.masked : Value → Value
  | text _ => .text ""
  | number _ => .number ⟨0⟩
  | count _ => .count 0

/-- The piece with its value masked. -/
def Piece.masked : Piece → Piece
  | text content => .text content
  | value bound => .value bound.masked

theorem numberedFrom_masked (n : Nat) (pieces : List Piece) :
    numberedFrom n (pieces.map Piece.masked) = numberedFrom n pieces := by
  induction pieces generalizing n with
  | nil => rfl
  | cons piece pieces ih =>
    cases piece with
    | text content => exact congrArg (content :: ·) (ih n)
    | value bound => exact congrArg (("$" ++ toString n) :: ·) (ih (n + 1))

theorem valuePiece_masked (value : Option Param) :
    valuePiece (value.map Param.masked) = (valuePiece value).map Piece.masked := by
  cases value with
  | none => rfl
  | some param => cases param <;> rfl

theorem wordValue?_masked (params : List Param) (word : List Char) :
    wordValue? (params.map Param.masked) word = (wordValue? params word).map Param.masked := by
  unfold wordValue?
  split
  · exact List.getElem?_map
  · rfl

/-- Binding goes by the number of the values. -/
theorem bindTokens_masked (params : List Param) (next : Nat) (tokens : List SqlToken) :
    bindTokens (params.map Param.masked) next tokens =
      (bindTokens params next tokens).map Piece.masked := by
  fun_induction bindTokens params next tokens with
  | case1 => rfl
  | case2 next tokens ih =>
    rw [bindTokens, ih]
    rfl
  | case3 next word tokens ih =>
    rw [bindTokens, ih, wordValue?_masked, valuePiece_masked, List.map_append]
  | case4 next tokens _ _ ih =>
    rw [bindTokens, ih, List.getElem?_map, valuePiece_masked, List.map_append]
    · assumption
    · assumption
  | case5 next token tokens _ _ _ ih =>
    rw [bindTokens, ih]
    · rfl
    · assumption
    · assumption
    · assumption

theorem splice_masked (text : String) (params : List Param) :
    splice text (params.map Param.masked) = (splice text params).map Piece.masked :=
  bindTokens_masked ..

/-! ### Select statements -/

namespace Select

/-- The condition with its values masked. -/
def maskedCondition (condition : String × List Param) : String × List Param :=
  (condition.1, condition.2.map Param.masked)

/-- The statement with its values masked. -/
def masked (s : Select) : Select :=
  { s with
    conditions := s.conditions.map maskedCondition
    window := s.window.map fun _ => ⟨0, 0⟩ }

theorem enclosed_masked (condition : String × List Param) :
    enclosed (maskedCondition condition) = (enclosed condition).map Piece.masked := by
  rw [enclosed, enclosed, maskedCondition, splice_masked, List.map_append, List.map_cons]
  rfl

theorem conjuncts_masked (conditions : List (String × List Param)) :
    ((conditions.map maskedCondition).flatMap fun condition =>
        .text " AND " :: enclosed condition) =
      (conditions.flatMap fun condition => .text " AND " :: enclosed condition).map
        Piece.masked := by
  induction conditions with
  | nil => rfl
  | cons condition conditions ih =>
    rw [List.map_cons, List.flatMap_cons, List.flatMap_cons, ih, enclosed_masked, List.map_append]
    rfl

/-- Several conditions are put in parentheses. -/
theorem wherePieces_several (first second : String × List Param)
    (conditions : List (String × List Param)) :
    wherePieces (first :: second :: conditions) =
      .text " WHERE " :: enclosed first ++
        (second :: conditions).flatMap fun condition => .text " AND " :: enclosed condition :=
  rfl

theorem wherePieces_masked (conditions : List (String × List Param)) :
    wherePieces (conditions.map maskedCondition) =
      (wherePieces conditions).map Piece.masked := by
  match conditions with
  | [] => rfl
  | [(text, params)] => exact congrArg (.text " WHERE " :: ·) (splice_masked text params)
  | first :: second :: conditions =>
    have hconjuncts := conjuncts_masked (second :: conditions)
    rw [List.map_cons] at hconjuncts
    rw [List.map_cons, List.map_cons, wherePieces_several, hconjuncts, enclosed_masked,
      wherePieces_several, List.map_append]
    rfl

theorem pieces_masked (s : Select) : s.masked.pieces = s.pieces.map Piece.masked := by
  have hwindow : windowPieces (s.window.map fun _ => ⟨0, 0⟩) =
      (windowPieces s.window).map Piece.masked := by
    cases s.window <;> rfl
  rw [pieces_eq, pieces_eq, List.map_cons, List.map_append, List.map_append, ← hwindow,
    ← wherePieces_masked]
  rfl

/-- The text of a statement does not depend on its values. -/
theorem sql_masked (s : Select) : s.masked.sql = s.sql := by
  rw [sql, sql, pieces_masked, numberedText, numberedText, numberedFrom_masked]

end Select

/-! ### Building -/

/-- The addition with its values masked. -/
def Addition.masked : Addition → Addition
  | filter f => .filter f.masked
  | order term => .order term
  | .join clause => .join clause
  | .window _ => .window ⟨0, 0⟩
  | preload association => .preload association

theorem Plan.additions_masked (plan : Plan) :
    plan.masked.additions = plan.additions.map Addition.masked := by
  have hwindow : (plan.window.map fun _ => (⟨0, 0⟩ : Window)).toList.map Addition.window =
      (plan.window.toList.map Addition.window).map Addition.masked := by
    cases plan.window <;> rfl
  simp only [additions, List.map_append, List.map_cons, List.map_map, ← hwindow]
  rfl

namespace Select

theorem masked_apply (s : Select) (addition : Addition) :
    (addition.apply s).masked = addition.masked.apply s.masked := by
  cases addition with
  | filter f =>
    obtain ⟨predicate, associations⟩ := f
    cases predicate with
    | none => rfl
    | some predicate =>
      show Select.masked
          { s with conditions := s.conditions ++ [(predicate.text, predicate.params)] } =
        { s.masked with
          conditions := s.masked.conditions ++ [(predicate.masked.text, predicate.masked.params)] }
      rw [predicate.text_masked, predicate.params_masked, masked, List.map_append]
      rfl
  | order term => rfl
  | join clause => rfl
  | window bounds => rfl
  | preload association =>
    exact apply_ite masked (s.preloads.contains association) s _

/-- Masking may be done before or after building. -/
theorem masked_build (additions : List Addition) (s : Select) :
    (build additions s).masked = build (additions.map Addition.masked) s.masked := by
  induction additions generalizing s with
  | nil => rfl
  | cons addition additions ih =>
    have h := ih (addition.apply s)
    rw [masked_apply] at h
    exact h

end Select

theorem Plan.sql_applyTo_eq {p q : Plan} (h : p.masked = q.masked) (s : Select) :
    (p.applyTo s).sql = (q.applyTo s).sql := by
  rw [Plan.applyTo_eq_build, Plan.applyTo_eq_build, ← Select.sql_masked, Select.masked_build,
    ← Plan.additions_masked, h, Plan.additions_masked, ← Select.masked_build, Select.sql_masked]

/-! ### Bound values -/

/-- The bounds of a page, as they are given. -/
def pageEntries : Option Pagination → List Value
  | none => []
  | some page => [.count page.limit, .count page.offset]

/-- The values that a request holds: those of the filter from left to right, then the limit
and the offset of the page. -/
def Operators.entries (operators : Operators) : List Value :=
  (operators.filter.toList.flatMap Filter.leafValues).map Param.value ++
    pageEntries operators.pagination

theorem compileFilter_params {scope : Scope} {filter : Option Filter} {compiled : CompiledFilter}
    (h : compileFilter scope filter = .ok compiled) :
    compiled.params = filter.toList.flatMap Filter.leafValues := by
  cases filter with
  | none =>
    obtain rfl := Except.ok.inj h
    rfl
  | some f =>
    obtain ⟨predicate, associations, hcompile, rfl⟩ := compileFilter_some_eq_ok.1 h
    rw [Option.toList_some, List.flatMap_singleton]
    exact hcompile.params_eq

/-- A plan binds the values of the filter and then those of the window. -/
theorem values_applyTo {schema : Schema} {defaultLimit : UInt64} {entityName : String}
    {operators : Operators} {plan : Plan}
    (h : compile schema.catalog defaultLimit entityName operators.request = .ok plan)
    (table : String) :
    (plan.applyTo (Select.ofTable table)).values =
      (operators.filter.toList.flatMap Filter.leafValues).map Param.value ++
        windowValues (operators.pagination.map (·.window defaultLimit)) := by
  obtain ⟨scope, hscope, hplan⟩ := Outcome.bind_eq_ok.1 h
  obtain ⟨hfilter, -, -, -, hwindow⟩ := compileIn_eq_ok.1 hplan
  have hof : ∀ f, .filter f ∈ plan.additions → f.Of schema := by
    intro f hf
    have heq : f = plan.filter := by
      simpa [Plan.additions] using hf
    exact ⟨entityName, scope, operators.filter, hscope, heq ▸ hfilter⟩
  rw [Plan.applyTo_eq_build, values_build hof, plan.flatMap_params_additions,
    plan.lastWindow_additions, compileFilter_params hfilter, hwindow]

/-- Requests of one shape hold equally many values in their filters. -/
theorem length_leafValues_of_masked {a b : Operators} (h : a.masked = b.masked) :
    (a.filter.toList.flatMap Filter.leafValues).length =
      (b.filter.toList.flatMap Filter.leafValues).length := by
  have hlength : ∀ operators : Operators,
      (operators.masked.filter.toList.flatMap Filter.leafValues).length =
        (operators.filter.toList.flatMap Filter.leafValues).length := by
    intro operators
    cases hfilter : operators.filter with
    | none => simp [Operators.masked, hfilter]
    | some f => simp [Operators.masked, hfilter, Filter.leafValues_masked]
  rw [← hlength a, h, hlength b]

/-- A bound of the window depends on the bound of the page in the same place only. -/
theorem windowValues_getElem? (defaultLimit : UInt64) {p q : Option Pagination}
    (h : p.isSome = q.isSome) {i : Nat} (hi : (pageEntries p)[i]? = (pageEntries q)[i]?) :
    (windowValues (p.map (·.window defaultLimit)))[i]? =
      (windowValues (q.map (·.window defaultLimit)))[i]? := by
  cases p with
  | none =>
    cases q with
    | none => rfl
    | some page => cases h
  | some page =>
    cases q with
    | none => cases h
    | some other =>
      match i with
      | 0 =>
        have hlimit : page.limit = other.limit := Value.count.inj (Option.some.inj hi)
        show some (Value.count (page.window defaultLimit).limit) =
          some (Value.count (other.window defaultLimit).limit)
        rw [Pagination.window, Pagination.window, hlimit]
      | 1 =>
        have hoffset : page.offset = other.offset := Value.count.inj (Option.some.inj hi)
        show some (Value.count page.offset) = some (Value.count other.offset)
        rw [hoffset]
      | i + 2 => rfl

theorem length_windowValues {p q : Option Window} (h : p.isSome = q.isSome) :
    (windowValues p).length = (windowValues q).length := by
  cases p <;> cases q <;> first | rfl | cases h

/-- In two lists with first parts of one length, equal items stay in equal places if the second
parts are replaced item by item. -/
theorem getElem?_append_congr {α : Type} {l l' m m' r r' : List α} (hlength : l.length = l'.length)
    (h : ∀ i : Nat, m[i]? = m'[i]? → r[i]? = r'[i]?) {i : Nat}
    (hi : (l ++ m)[i]? = (l' ++ m')[i]?) : (l ++ r)[i]? = (l' ++ r')[i]? := by
  by_cases hlt : i < l.length
  · have hlt' : i < l'.length := hlength ▸ hlt
    rw [List.getElem?_append_left hlt, List.getElem?_append_left hlt'] at hi ⊢
    exact hi
  · have hle : l.length ≤ i := Nat.le_of_not_lt hlt
    have hle' : l'.length ≤ i := hlength ▸ hle
    rw [List.getElem?_append_right hle, List.getElem?_append_right hle', hlength] at hi ⊢
    exact h _ hi

/-- The plans of requests of one shape bind equally many values, and any two in the same place
depend on the values that the requests hold there. -/
theorem values_applyTo_congr {schema : Schema} {defaultLimit : UInt64} {entityName : String}
    {a b : Operators} (h : a.masked = b.masked) {p q : Plan}
    (ha : compile schema.catalog defaultLimit entityName a.request = .ok p)
    (hb : compile schema.catalog defaultLimit entityName b.request = .ok q) (table : String) :
    (p.applyTo (Select.ofTable table)).values.length =
        (q.applyTo (Select.ofTable table)).values.length ∧
      ∀ i : Nat, a.entries[i]? = b.entries[i]? →
        (p.applyTo (Select.ofTable table)).values[i]? =
          (q.applyTo (Select.ofTable table)).values[i]? := by
  have hpages : a.pagination.isSome = b.pagination.isSome := by
    obtain ⟨-, -, hpagination, -⟩ := Operators.mk.inj h
    have hsome := congrArg Option.isSome hpagination
    rwa [Option.isSome_map, Option.isSome_map] at hsome
  have hleaves : ((a.filter.toList.flatMap Filter.leafValues).map Param.value).length =
      ((b.filter.toList.flatMap Filter.leafValues).map Param.value).length := by
    rw [List.length_map, List.length_map, length_leafValues_of_masked h]
  have hwindows : (windowValues (a.pagination.map (·.window defaultLimit))).length =
      (windowValues (b.pagination.map (·.window defaultLimit))).length :=
    length_windowValues (by rw [Option.isSome_map, Option.isSome_map, hpages])
  rw [values_applyTo ha, values_applyTo hb]
  constructor
  · rw [List.length_append, List.length_append, hleaves, hwindows]
  · intro i hi
    exact getElem?_append_congr hleaves (fun j => windowValues_getElem? defaultLimit hpages) hi

theorem CompiledFilter.texts_masked (f : CompiledFilter) :
    f.masked.predicate.map Predicate.text = f.predicate.map Predicate.text := by
  have htext : Predicate.text ∘ Predicate.masked = Predicate.text := funext Predicate.text_masked
  rw [masked, Option.map_map, htext]

/-- **Values never get into the text.** Take two requests that differ in nothing but the texts
and numbers that their filters compare with, and the bounds of their pages. Either both fail
to compile, for the same reason; or both compile, and then the text of the predicate, the
associations that are crossed, order, joins and preloads are the same, the statements that
the plans are applied to have the same text, and of the values that are bound, equally many,
any two in the same place are equal if the requests hold equal values there. -/
theorem values_never_reach_text (schema : Schema) (defaultLimit : UInt64) (entityName : String)
    (a b : Operators) (h : a.masked = b.masked) :
    (∃ e, compile schema.catalog defaultLimit entityName a.request = .error e ∧
      compile schema.catalog defaultLimit entityName b.request = .error e) ∨
    ∃ p q, compile schema.catalog defaultLimit entityName a.request = .ok p ∧
      compile schema.catalog defaultLimit entityName b.request = .ok q ∧
      p.filter.predicate.map Predicate.text = q.filter.predicate.map Predicate.text ∧
      p.filter.associations = q.filter.associations ∧ p.sort = q.sort ∧ p.joins = q.joins ∧
      p.preloads = q.preloads ∧ (∀ s : Select, (p.applyTo s).sql = (q.applyTo s).sql) ∧
      ∀ table,
        (p.applyTo (Select.ofTable table)).values.length =
          (q.applyTo (Select.ofTable table)).values.length ∧
        ∀ i : Nat, a.entries[i]? = b.entries[i]? →
          (p.applyTo (Select.ofTable table)).values[i]? =
            (q.applyTo (Select.ofTable table)).values[i]? := by
  have hmasked := compile_masked schema.catalog defaultLimit entityName h
  rcases Outcome.map_eq_map.1 hmasked with ⟨e, ha, hb⟩ | ⟨p, q, ha, hb, hpq⟩
  · exact .inl ⟨e, ha, hb⟩
  · obtain ⟨hfilter, hsort, hjoins, -, hpreloads⟩ := Plan.mk.inj hpq
    refine .inr ⟨p, q, ha, hb, ?_, ?_, hsort, hjoins, hpreloads, Plan.sql_applyTo_eq hpq, ?_⟩
    · rw [← p.filter.texts_masked, hfilter, q.filter.texts_masked]
    · show p.filter.masked.associations = q.filter.masked.associations
      rw [hfilter]
    · exact fun table => values_applyTo_congr h ha hb table

/-- A text that looks like SQL and other bounds leave the statement as it is, and the number
between them stays bound where it was. -/
theorem values_never_reach_text_hostile :
    ∃ a b p q, Operators.masked a = Operators.masked b ∧
      compile Config.demo.schema.catalog 20 "Item" a.request = .ok p ∧
      compile Config.demo.schema.catalog 20 "Item" b.request = .ok q ∧
      a.entries = [.text "pen", .number ⟨0⟩, .count 10, .count 0] ∧
      b.entries = [.text "' OR $2 = ? --", .number ⟨0⟩, .count 0, .count 5] ∧
      (p.applyTo (Select.ofTable "items")).sql = (q.applyTo (Select.ofTable "items")).sql ∧
      (p.applyTo (Select.ofTable "items")).values[1]? =
        (q.applyTo (Select.ofTable "items")).values[1]? := by
  let filter (value : String) : Filter :=
    .logical .or true (.text ⟨["owner", "city"]⟩ .matching value true)
      (.logical .and false (.null ⟨["deleted"]⟩ false) (.number ⟨["age"]⟩ .ge ⟨0⟩ false))
  let a : Operators := ⟨some (filter "pen"), some [⟨"owner.city", true⟩], some ⟨0, 10⟩, none⟩
  let b : Operators :=
    ⟨some (filter "' OR $2 = ? --"), some [⟨"owner.city", true⟩], some ⟨5, 0⟩, none⟩
  have hok : ∀ operators : Operators, compile Config.demo.schema.catalog 20 "Item"
      operators.request = compileIn Config.itemScope 20 operators := by
    intro operators
    rw [compile_request, Config.scope_item]
    rfl
  rcases values_never_reach_text Config.demo.schema 20 "Item" a b rfl with
    ⟨e, ha, -⟩ | ⟨p, q, ha, hb, -, -, -, -, -, hsql, hvalues⟩
  · obtain ⟨plan, hplan⟩ : ∃ plan, compileIn Config.itemScope 20 a = .ok plan := ⟨_, rfl⟩
    rw [hok, hplan] at ha
    cases ha
  · exact ⟨a, b, p, q, rfl, ha, hb, rfl, rfl, hsql _, (hvalues "items").2 1 rfl⟩

end RequestSql
