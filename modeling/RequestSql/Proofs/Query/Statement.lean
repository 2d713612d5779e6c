import RequestSql.Proofs.Plan.References
import RequestSql.Proofs.Query.Additions
import RequestSql.Proofs.Query.Splicing
import RequestSql.Proofs.Sql.Atom

/-!
# The atoms of a plan

What the texts of a plan are cut into: its predicate, the terms of its order, its joins and
the whole statement that it is applied to. For each of them the atoms are given first, in
terms of the columns, tables and keys of the plan, then they are shown to be legible and to
have that text. In a predicate names stand as they are and a value is a `?`; in a statement
the names of the skeleton are quoted, and the values of the predicate are numbered.

Key definitions: `Predicate.atoms`, `Join.atoms`, `Plan.atoms`.
Key theorems: `atoms_predicateText`, `atoms_termText`, `atoms_joinText`,
`Plan.atoms_sql`.
-/

namespace RequestSql

open Sql (Atom Legible Follows)

/-! ### Names and placeholders -/

/-- A table, a point and a column; `name` says how names are written. -/
def Column.atoms (name : String → Atom) (column : Column) : List Atom :=
  [name column.table, .mark '.', name column.name]

/-- The placeholder of the `n`-th value of a statement. -/
def Sql.Atom.placeholder (n : Nat) : Atom := .word ("$" ++ toString n)

theorem Sql.Atom.isRun_word {name : String} (h : isIdentifier name = true) :
    (Atom.word name).isRun = true := by
  obtain ⟨c, cs, heq, -⟩ := exists_cons_of_isIdentifier h
  have hparts : name.toList.all Sql.isWordPart = true := by
    refine List.all_eq_true.2 fun d hd => ?_
    rw [Sql.isWordPart, isIdentifierPart_of_mem h hd]
    rfl
  rw [isRun, hparts, heq]
  rfl

theorem Sql.Atom.text_placeholder (n : Nat) :
    (placeholder n).text = '$' :: Nat.toDigits 10 n := by
  simp [placeholder]

theorem Sql.Atom.isRun_placeholder (n : Nat) : (placeholder n).isRun = true := by
  have hparts : ∀ c ∈ '$' :: Nat.toDigits 10 n, Sql.isWordPart c = true := by
    intro c hc
    rcases List.mem_cons.1 hc with rfl | hc
    · decide
    · have hdigit := Nat.isDigit_of_mem_toDigits (by decide) (by decide) hc
      simp [Sql.isWordPart, isIdentifierPart, Char.isAlphanum, hdigit]
  have htext : ("$" ++ toString n).toList = '$' :: Nat.toDigits 10 n := text_placeholder n
  rw [placeholder, isRun, htext, List.all_eq_true.2 hparts]
  rfl

/-- A column whose parts are words or names is legible before anything that follows. -/
theorem Column.legible_atoms {name : String → Atom} {column : Column}
    (htable : (name column.table).isRun = true) (hname : (name column.name).isRun = true)
    {ls : List Atom} (hls : Follows ls) : Legible (column.atoms name ++ ls) :=
  .run htable (by decide) (.cons (.inr hname) hls)

/-! ### Predicates -/

namespace Predicate

/-- What a node opens with. -/
def opening (negated : Bool) : List Atom :=
  if negated then [.word "NOT", .mark '('] else [.mark '(']

/-- The atoms of a predicate whose first value is the `n`-th one. -/
def atoms (placeholder : Nat → Atom) (n : Nat) : Predicate → List Atom
  | compare column op _ negated =>
    opening negated ++ (column.atoms .word ++
      [.blank, .operator op.text, .blank, placeholder n, .mark ')'])
  | isNull column negated =>
    opening negated ++ (column.atoms .word ++
      [.blank, .word "IS", .blank, .word "NULL", .mark ')'])
  | logical combinator negated left right =>
    opening negated ++ (left.atoms placeholder n ++
      (.blank :: .word combinator.keyword :: .blank ::
        (right.atoms placeholder (n + left.paramCount) ++ [.mark ')'])))

theorem legible_opening (negated : Bool) {ls : List Atom} (hls : Legible ls) :
    Legible (opening negated ++ ls) := by
  cases negated with
  | false => exact .separator (by decide) hls
  | true => exact .run (by decide) (by decide) hls

theorem text_opening (negated : Bool) :
    (opening negated).flatMap Atom.text = (negation negated).toList ++ ['('] := by
  cases negated <;> rfl

theorem isRun_operator (op : CompareOp) : (Atom.operator op.text).isRun = true := by
  cases op <;> decide

theorem isRun_keyword (combinator : Combinator) :
    (Atom.word combinator.keyword).isRun = true := by
  cases combinator <;> decide

variable {p : Predicate} {placeholder : Nat → Atom}

theorem legible_atoms (hp : p.Named)
    (hplaceholder : ∀ n, (placeholder n).isSeparator = true ∨ (placeholder n).isRun = true)
    (n : Nat) : Legible (p.atoms placeholder n) := by
  have hclosing : Follows [Atom.mark ')'] := .separator (by decide) .nil
  induction p generalizing n with
  | compare column op param negated =>
    have hvalue := Legible.cons (hplaceholder n) hclosing
    have hcompare : Follows [.blank, .operator op.text, .blank, placeholder n, .mark ')'] :=
      .separator rfl (.run (isRun_operator op) rfl hvalue)
    exact legible_opening negated (Column.legible_atoms (Atom.isRun_word hp.table)
      (Atom.isRun_word hp.name) hcompare)
  | isNull column negated =>
    have hnull : Follows [Atom.blank, .word "IS", .blank, .word "NULL", .mark ')'] :=
      .separator rfl (.run (by decide) rfl (.run (by decide) (by decide) .nil))
    exact legible_opening negated (Column.legible_atoms (Atom.isRun_word hp.table)
      (Atom.isRun_word hp.name) hnull)
  | logical combinator negated left right ihl ihr =>
    have hright := (ihr hp.2 (n + left.paramCount)).append hclosing
    have hoperand : Follows (.blank :: .word combinator.keyword :: .blank ::
        (right.atoms placeholder (n + left.paramCount) ++ [.mark ')'])) :=
      .separator rfl (.run (isRun_keyword combinator) rfl hright)
    exact legible_opening negated ((ihl hp.1 n).append hoperand)

/-- With a `?` for every value the atoms have the text of the predicate. -/
theorem text_atoms (p : Predicate) (n : Nat) :
    (p.atoms (fun _ => .mark '?') n).flatMap Atom.text = p.text.toList := by
  induction p generalizing n with
  | compare column op param negated =>
    rw [atoms, List.flatMap_append, text_opening, toList_text_compare]
    simp [Column.atoms]
  | isNull column negated =>
    rw [atoms, List.flatMap_append, text_opening, toList_text_isNull]
    simp [Column.atoms]
  | logical combinator negated left right ihl ihr =>
    rw [atoms, List.flatMap_append, List.flatMap_append, text_opening, ihl, toList_text_logical]
    simp [ihr]

theorem count_text (hp : p.Named) : p.text.toList.count '?' = p.paramCount := by
  rw [(marked hp).count_eq, length_params]

/-- With placeholders they have the text with its marks numbered. -/
theorem text_atoms_placeholder (hp : p.Named) (n : Nat) :
    (p.atoms .placeholder n).flatMap Atom.text = numberMarksFrom n p.text.toList := by
  induction p generalizing n with
  | compare column op param negated =>
    have hbare := ((bare_opening negated).append (bare_column hp)).append (bare_operator op)
    have htext : (compare column op param negated).text.toList =
        ((negation negated).toList ++ ['('] ++ (column.table.toList ++ '.' :: column.name.toList) ++
          ' ' :: op.text.toList) ++ [' ', '?', ')'] := by
      rw [toList_text_compare]
      simp
    rw [htext, numberMarksFrom_append_of_bare hbare, atoms, List.flatMap_append, text_opening]
    simp [Column.atoms, Atom.text_placeholder, numberMarksFrom]
  | isNull column negated =>
    have hnull : Bare " IS NULL)".toList := by decide
    have hbare := ((bare_opening negated).append (bare_column hp)).append hnull
    have htext : (isNull column negated).text.toList =
        (negation negated).toList ++ ['('] ++ (column.table.toList ++ '.' :: column.name.toList) ++
          " IS NULL)".toList := by
      rw [toList_text_isNull]
      simp
    rw [htext, hbare.numberMarksFrom_eq, atoms, List.flatMap_append, text_opening]
    simp [Column.atoms]
  | logical combinator negated left right ihl ihr =>
    have hopening := bare_opening negated
    have hcombinator := bare_combinator combinator
    have htext : (logical combinator negated left right).text.toList =
        ((negation negated).toList ++ ['(']) ++ (left.text.toList ++
          (' ' :: (combinator.keyword.toList ++ [' ']) ++ (right.text.toList ++ [')']))) := by
      rw [toList_text_logical]
      simp
    rw [htext, numberMarksFrom_append_of_bare hopening, numberMarksFrom_append, ← ihl hp.1,
      numberMarksFrom_append_of_bare hcombinator, numberMarksFrom_append, count_text hp.1,
      ← ihr hp.2, atoms, List.flatMap_append, List.flatMap_append, text_opening]
    simp [numberMarksFrom]

end Predicate

/-- The atoms of the text of a predicate. -/
theorem atoms_predicateText {p : Predicate} (hp : p.Named) :
    Sql.atoms p.text.toList = p.atoms (fun _ => .mark '?') 1 := by
  rw [← p.text_atoms 1]
  exact (Predicate.legible_atoms hp (fun _ => .inl (by decide)) 1).atoms_eq

/-! ### Orders -/

/-- Both parts of a column are words or names. -/
def Column.Runs (name : String → Atom) (column : Column) : Prop :=
  (name column.table).isRun = true ∧ (name column.name).isRun = true

theorem Column.Named.runs {column : Column} (h : column.Named) : column.Runs .word :=
  ⟨Atom.isRun_word h.table, Atom.isRun_word h.name⟩

theorem Column.runs_quoted (column : Column) : column.Runs .quoted := ⟨rfl, rfl⟩

theorem Column.text_atoms (column : Column) :
    (column.atoms .word).flatMap Atom.text = column.text.toList := by
  simp [Column.atoms, Column.toList_text]

theorem toList_quotedName (name : String) :
    (Select.quotedName name).toList = (Atom.quoted name).text := by
  simp [Select.quotedName, Sql.escaped]

theorem Column.text_atoms_quoted (column : Column) :
    (column.atoms .quoted).flatMap Atom.text = (Select.quotedColumn column).toList := by
  rw [Select.quotedColumn, String.toList_append, String.toList_append, toList_quotedName,
    toList_quotedName]
  simp [Column.atoms]

namespace OrderTerm

/-- The atoms of the text of a term. -/
def atoms (term : OrderTerm) : List Atom :=
  term.column.atoms .word ++ if term.descending then [.blank, .word "desc"] else []

/-- The atoms of a term in a statement. -/
def clauseAtoms (term : OrderTerm) : List Atom :=
  term.column.atoms .quoted ++ [.blank, .word (if term.descending then "DESC" else "ASC")]

theorem text_clauseAtoms (term : OrderTerm) :
    term.clauseAtoms.flatMap Atom.text = (Select.orderText term).toList := by
  rw [clauseAtoms, List.flatMap_append, Column.text_atoms_quoted, Select.orderText,
    String.toList_append]
  cases term.descending <;> rfl

theorem legible_clauseAtoms (term : OrderTerm) : Legible term.clauseAtoms := by
  have hdirection : Follows [.blank, .word (if term.descending then "DESC" else "ASC")] :=
    .separator rfl (.last (by cases term.descending <;> decide))
  exact Column.legible_atoms rfl rfl hdirection

end OrderTerm

/-- The atoms of the text of a term. -/
theorem atoms_termText {term : OrderTerm} (h : term.column.Named) :
    Sql.atoms term.text.toList = term.atoms := by
  have hdirection : Follows (if term.descending then [.blank, .word "desc"] else []) := by
    cases term.descending with
    | false => exact .nil
    | true => exact .separator rfl (.last (by decide))
  have hlegible : Legible term.atoms := Column.legible_atoms h.runs.1 h.runs.2 hdirection
  have htext : term.atoms.flatMap Atom.text = term.text.toList := by
    rw [OrderTerm.atoms, List.flatMap_append, Column.text_atoms, OrderTerm.text,
      String.toList_append]
    cases term.descending <;> rfl
  rw [← htext, hlegible.atoms_eq]

/-! ### Joins -/

namespace Join

/-- The atoms of one condition of a join. -/
def pairAtoms (name : String → Atom) (pair : Column × Column) : List Atom :=
  pair.1.atoms name ++ .blank :: .operator "=" :: .blank :: pair.2.atoms name

/-- The atoms of a join; `name` says how names are written. -/
def atoms (name : String → Atom) (join : Join) : List Atom :=
  .word "LEFT" :: .blank :: .word "JOIN" :: .blank :: name join.table :: .blank :: .word "ON" ::
    .blank :: [.blank, .word "AND", .blank].intercalate (join.keyPairs.map (pairAtoms name))

theorem legible_atoms {name : String → Atom} {join : Join}
    (htable : (name join.table).isRun = true)
    (hpairs : ∀ pair ∈ join.keyPairs, pair.1.Runs name ∧ pair.2.Runs name) :
    Legible (join.atoms name) := by
  have hpair : ∀ atoms ∈ join.keyPairs.map (pairAtoms name), Legible atoms := by
    intro atoms hatoms
    obtain ⟨pair, hpair, rfl⟩ := List.mem_map.1 hatoms
    obtain ⟨hsource, hown⟩ := hpairs pair hpair
    have htarget : Legible (pair.2.atoms name) :=
      .run hown.1 (by decide) (.last hown.2)
    exact Column.legible_atoms hsource.1 hsource.2
      (.separator rfl (.run (by decide) rfl htarget))
  have hand : ∀ {atoms}, Legible atoms → Legible ([.word "AND", .blank] ++ atoms) :=
    fun hatoms => .run (by decide) rfl hatoms
  have hconditions := Legible.intercalate (s := .blank) rfl hand hpair
  exact .run (by decide) rfl (.run (by decide) rfl (.run htable rfl
    (.run (by decide) rfl hconditions)))

theorem text_conditions {name : String → Atom} {write : Column → String}
    (hwrite : ∀ column : Column, (column.atoms name).flatMap Atom.text = (write column).toList)
    (pairs : List (Column × Column)) :
    ([Atom.blank, .word "AND", .blank].intercalate (pairs.map (pairAtoms name))).flatMap Atom.text =
      (" AND ".intercalate
        (pairs.map fun pair => write pair.1 ++ " = " ++ write pair.2)).toList := by
  rw [Sql.flatMap_intercalate, String.toList_intercalate, List.map_map, List.map_map]
  refine congrArg (List.intercalate _) (List.map_congr_left fun pair _ => ?_)
  simp [pairAtoms, hwrite]

end Join

/-- The atoms of the text of a join. -/
theorem atoms_joinText {join : Join} (h : join.Named) :
    Sql.atoms join.text.toList = join.atoms .word := by
  have hlegible : Legible (join.atoms .word) :=
    Join.legible_atoms (Atom.isRun_word h.table) fun pair hpair =>
      ⟨(h.pair pair hpair).1.runs, (h.pair pair hpair).2.runs⟩
  have htext : (join.atoms .word).flatMap Atom.text = join.text.toList := by
    simp only [Join.atoms, List.flatMap_cons, Join.text_conditions Column.text_atoms, Join.text,
      Join.condition, String.toList_append, List.append_assoc]
    rfl
  rw [← htext, hlegible.atoms_eq]

/-- A join in a statement, where names are quoted. -/
theorem Join.text_atoms_quoted {join : Join} (h : join.keyPairs ≠ []) :
    (Atom.blank :: join.atoms .quoted).flatMap Atom.text = (Select.joinText join).toList := by
  have hempty : join.keyPairs.isEmpty = false := List.isEmpty_eq_false_iff.2 h
  rw [Select.joinText, Select.joinCondition, hempty, if_neg Bool.false_ne_true]
  simp only [Join.atoms, List.flatMap_cons, Join.text_conditions Column.text_atoms_quoted,
    String.toList_append, toList_quotedName, List.append_assoc]
  rfl

/-! ### Statements -/

namespace Select

theorem foldl_orderBy (terms : List OrderTerm) (s : Select) :
    terms.foldl Builder.orderBy s = { s with order := s.order ++ terms } := by
  induction terms generalizing s with
  | nil => simp
  | cons term terms ih =>
    rw [List.foldl_cons, ih]
    simp [Builder.orderBy]

theorem foldl_join (joins : List Join) (s : Select) :
    joins.foldl Builder.join s = { s with joins := s.joins ++ joins } := by
  induction joins generalizing s with
  | nil => simp
  | cons join joins ih =>
    rw [List.foldl_cons, ih]
    simp [Builder.join]

theorem exists_foldl_preload (names : List String) (s : Select) :
    ∃ preloads, names.foldl Builder.preload s = { s with preloads := preloads } := by
  induction names generalizing s with
  | nil => exact ⟨s.preloads, rfl⟩
  | cons name names ih =>
    obtain ⟨preloads, hpreloads⟩ := ih (Builder.preload s name)
    refine ⟨preloads, ?_⟩
    rw [List.foldl_cons, hpreloads]
    simp only [Builder.preload]
    split <;> rfl

end Select

namespace Plan

/-- The statement of a plan is made of its parts. -/
theorem exists_applyTo_ofTable (plan : Plan) (table : String) :
    ∃ preloads, plan.applyTo (Select.ofTable table) =
      ⟨table, plan.joins, plan.filter.condition?.toList, plan.sort.terms, plan.window,
        preloads⟩ := by
  obtain ⟨⟨predicate, associations⟩, sort, joins, window, names⟩ := plan
  unfold applyTo
  simp only [Select.foldl_orderBy, Select.foldl_join]
  obtain ⟨preloads, hpreloads⟩ := Select.exists_foldl_preload names _
  refine ⟨preloads, hpreloads.trans ?_⟩
  cases predicate <;> cases window <;> rfl

/-- The atoms of the list of columns and the tables. -/
def headAtoms (table : String) (plan : Plan) : List Atom :=
  [.word "SELECT", .blank, .quoted table, .mark '.', .mark '*', .blank, .word "FROM", .blank,
    .quoted table] ++ plan.joins.flatMap fun join => .blank :: join.atoms .quoted

/-- The atoms of `WHERE`. -/
def conditionAtoms (plan : Plan) : List Atom :=
  match plan.filter.predicate with
  | none => []
  | some p => .blank :: .word "WHERE" :: .blank :: p.atoms .placeholder 1

/-- The atoms of `ORDER BY`. -/
def orderAtoms (plan : Plan) : List Atom :=
  if plan.sort.terms.isEmpty then []
  else
    .blank :: .word "ORDER" :: .blank :: .word "BY" :: .blank ::
      [.mark ',', .blank].intercalate (plan.sort.terms.map OrderTerm.clauseAtoms)

/-- The atoms of `LIMIT` and `OFFSET`, whose values are the `n`-th and the next one. -/
def windowAtoms (n : Nat) (plan : Plan) : List Atom :=
  match plan.window with
  | none => []
  | some _ =>
    [.blank, .word "LIMIT", .blank, .placeholder n, .blank, .word "OFFSET", .blank,
      .placeholder (n + 1)]

/-- The atoms of the statement of a plan. -/
def atoms (table : String) (plan : Plan) : List Atom :=
  plan.headAtoms table ++ (plan.conditionAtoms ++
    (plan.orderAtoms ++ plan.windowAtoms (1 + plan.filter.params.length)))

variable {plan : Plan}

theorem legible_headAtoms (table : String) : Legible (plan.headAtoms table) := by
  have hjoins : Follows (plan.joins.flatMap fun join => Atom.blank :: join.atoms .quoted) :=
    .flatMap fun join _ => .separator rfl (Join.legible_atoms rfl fun pair _ =>
      ⟨pair.1.runs_quoted, pair.2.runs_quoted⟩)
  have htable : Legible [Atom.word "FROM", .blank, .quoted table] :=
    .run (by decide) rfl (.last rfl)
  have hcolumns : Legible [Atom.word "SELECT", .blank, .quoted table, .mark '.', .mark '*',
      .blank, .word "FROM", .blank, .quoted table] :=
    .run (by decide) rfl (.run rfl (by decide) (.separator (by decide) (.separator rfl htable)))
  exact hcolumns.append hjoins

theorem follows_conditionAtoms (h : plan.Named) : Follows plan.conditionAtoms := by
  unfold conditionAtoms
  split
  · exact .nil
  · next p hp =>
    have hpredicate : Legible (p.atoms .placeholder 1) :=
      Predicate.legible_atoms (h.predicate hp) (fun n => .inr (Atom.isRun_placeholder n)) 1
    exact .separator rfl (.run (by decide) rfl hpredicate)

theorem follows_orderAtoms : Follows plan.orderAtoms := by
  unfold orderAtoms
  split
  · exact .nil
  · have hterms : ∀ atoms ∈ plan.sort.terms.map OrderTerm.clauseAtoms, Legible atoms := by
      intro atoms hatoms
      obtain ⟨term, -, rfl⟩ := List.mem_map.1 hatoms
      exact term.legible_clauseAtoms
    have hcomma : ∀ {atoms}, Legible atoms → Legible ([Atom.blank] ++ atoms) :=
      fun hatoms => .separator rfl hatoms
    exact .separator rfl (.run (by decide) rfl (.run (by decide) rfl
      (.intercalate (by decide) hcomma hterms)))

theorem follows_windowAtoms (n : Nat) : Follows (plan.windowAtoms n) := by
  unfold windowAtoms
  split
  · exact .nil
  · have hoffset : Legible [Atom.word "OFFSET", .blank, .placeholder (n + 1)] :=
      .run (by decide) rfl (.last (Atom.isRun_placeholder _))
    exact .separator rfl (.run (by decide) rfl (.run (Atom.isRun_placeholder n) rfl hoffset))

theorem text_headAtoms (h : plan.Named) {s : Select} (hjoins : s.joins = plan.joins) :
    (plan.headAtoms s.table).flatMap Atom.text = s.headText.toList := by
  have htexts :
      (plan.joins.flatMap fun join => Atom.blank :: join.atoms .quoted).flatMap Atom.text =
        (String.join (plan.joins.map Select.joinText)).toList := by
    rw [String.toList_join, List.flatMap_map, List.flatMap_assoc]
    exact List.flatMap_congr fun join hjoin => Join.text_atoms_quoted (h.join join hjoin).keyed
  rw [headAtoms, List.flatMap_append, htexts, Select.headText, hjoins]
  simp [toList_quotedName]

theorem text_conditionAtoms (h : plan.Named) :
    plan.conditionAtoms.flatMap Atom.text =
        numberedChars 1 (Select.wherePieces plan.filter.condition?.toList) ∧
      boundValues (Select.wherePieces plan.filter.condition?.toList) =
        plan.filter.params.map Param.value := by
  unfold conditionAtoms CompiledFilter.condition? CompiledFilter.params
  cases hp : plan.filter.predicate with
  | none => exact ⟨rfl, rfl⟩
  | some p =>
    have hmarked := Predicate.marked (h.predicate hp)
    simp only [Option.map_some, Option.toList_some, Select.wherePieces, List.flatMap_cons,
      Predicate.text_atoms_placeholder (h.predicate hp), numberedChars_text,
      hmarked.numberedChars_splice, boundValues, hmarked.boundValues_splice]
    exact ⟨rfl, trivial⟩

theorem text_orderAtoms :
    plan.orderAtoms.flatMap Atom.text = (Select.orderClause plan.sort.terms).toList := by
  unfold orderAtoms Select.orderClause
  split
  · rfl
  · have hterms : (plan.sort.terms.map OrderTerm.clauseAtoms).map (List.flatMap Atom.text) =
        (plan.sort.terms.map Select.orderText).map String.toList := by
      rw [List.map_map, List.map_map]
      exact List.map_congr_left fun term _ => term.text_clauseAtoms
    simp only [List.flatMap_cons, Sql.flatMap_intercalate, hterms, String.toList_append,
      String.toList_intercalate]
    rfl

theorem text_windowAtoms (n : Nat) :
    (plan.windowAtoms n).flatMap Atom.text = numberedChars n (Select.windowPieces plan.window) := by
  unfold windowAtoms
  cases plan.window with
  | none => rfl
  | some window =>
    simp only [Select.windowPieces, numberedChars_text, numberedChars_value, List.flatMap_cons,
      Atom.text_placeholder]
    rfl

/-- The atoms of the statement of a plan that names identifiers. -/
theorem atoms_sql (h : plan.Named) (table : String) :
    Sql.atoms (plan.applyTo (Select.ofTable table)).sql.toList = plan.atoms table := by
  have hlegible : Legible (plan.atoms table) :=
    (legible_headAtoms table).append ((follows_conditionAtoms h).append
      (follows_orderAtoms.append (follows_windowAtoms _)))
  have htext : (plan.atoms table).flatMap Atom.text =
      (plan.applyTo (Select.ofTable table)).sql.toList := by
    obtain ⟨preloads, heq⟩ := plan.exists_applyTo_ofTable table
    obtain ⟨hcondition, hvalues⟩ := text_conditionAtoms h
    rw [heq, Select.sql, toList_numberedText, Select.pieces, List.cons_append, numberedChars_text,
      numberedChars_append, numberedChars_text, hvalues, List.length_map, ← hcondition,
      ← text_windowAtoms, ← text_orderAtoms, atoms, List.flatMap_append, List.flatMap_append,
      List.flatMap_append, ← text_headAtoms h rfl]
  rw [← htext, hlegible.atoms_eq]

end Plan

end RequestSql
