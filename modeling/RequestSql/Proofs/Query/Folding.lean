import RequestSql.Proofs.Plan.Joined
import RequestSql.Proofs.Query.Statement
import RequestSql.Request.Params

/-!
# What the names of a statement denote

To a database a name in quotes is just what stands there, while a name without quotes is
folded to lower case. The skeleton of a statement has its names in quotes, its predicate has
them as they stand. So the two speak of the same tables and columns exactly when the names
that the filter leads to have no capital letters; otherwise the predicate denotes other ones,
which the statement may not even introduce.

Key definitions: `Sql.introducedTables`, `Sql.looseColumns`, `Sql.exactColumns`,
`Sql.Skips`, `NamesAgree`.
Key theorems: `Plan.findAll_atoms`, `Plan.introducedTables_sql`, `Plan.looseColumns_sql`,
`namesAgree_iff`.
-/

namespace RequestSql

namespace Sql

/-! ### Names in a text -/

/-- What `find` finds in three atoms in a row, anywhere in a list. -/
def findAll {α : Type} (find : Atom → Atom → Atom → Option α) : List Atom → List α
  | first :: second :: third :: atoms =>
    (find first second third).toList ++ findAll find (second :: third :: atoms)
  | _ => []

/-- A name in lower case. -/
def folded (name : String) : String := String.ofList (lowerCase name.toList)

/-- The name that a word denotes. -/
def Atom.loose? : Atom → Option String
  | word name => some (folded name)
  | _ => none

/-- The name that a name in quotes denotes. -/
def Atom.exact? : Atom → Option String
  | quoted name => some name
  | _ => none

/-- The table in quotes that a keyword introduces. -/
def introduced? (first second third : Atom) : Option String :=
  if second = .blank ∧ (first = .word "FROM" ∨ first = .word "JOIN") then third.exact? else none

/-- The column that a table, a point and a name denote; `name` says what names denote. -/
def column? (name : Atom → Option String) (first second third : Atom) : Option Column :=
  if second = .mark '.' then do return ⟨← name first, ← name third⟩ else none

/-- The tables that a text introduces, each as often as it does. -/
def introducedTables (sql : String) : List String := findAll introduced? (atoms sql.toList)

/-- What the columns of a text denote that have no quotes. -/
def looseColumns (sql : String) : List Column := findAll (column? Atom.loose?) (atoms sql.toList)

/-- What the columns of a text denote that are in quotes. -/
def exactColumns (sql : String) : List Column := findAll (column? Atom.exact?) (atoms sql.toList)

/-! ### Finding in parts -/

section Parts

variable {α : Type} {find : Atom → Atom → Atom → Option α} {first second : Atom}
  {atoms behind : List Atom}

theorem findAll_cons (h : ∀ second third, find first second third = none) :
    findAll find (first :: atoms) = findAll find atoms := by
  match atoms with
  | [] => rfl
  | [_] => rfl
  | second :: third :: atoms =>
    rw [findAll, h]
    rfl

theorem findAll_cons_cons (h : ∀ third, find first second third = none) :
    findAll find (first :: second :: atoms) = findAll find (second :: atoms) := by
  match atoms with
  | [] => rfl
  | third :: atoms =>
    rw [findAll, h]
    rfl

/-- Nothing is found across the beginning of a list. -/
structure Cut (find : Atom → Atom → Atom → Option α) (behind : List Atom) : Prop where
  third : ∀ first second third rest, behind = third :: rest → find first second third = none
  second : ∀ first second third rest, behind = second :: third :: rest →
    find first second third = none

theorem Cut.nil : Cut find [] :=
  ⟨by rintro _ _ _ _ ⟨⟩, by rintro _ _ _ _ ⟨⟩⟩

theorem Cut.findAll_cons (h : Cut find behind) (first : Atom) :
    findAll find (first :: behind) = findAll find behind := by
  match behind, h with
  | [], _ => rfl
  | [_], _ => rfl
  | second :: third :: rest, h =>
    rw [findAll, h.second first second third rest rfl]
    rfl

/-- What is found in a list that is cut in two is found in either part. -/
theorem Cut.findAll_append (h : Cut find behind) : ∀ atoms : List Atom,
    findAll find (atoms ++ behind) = findAll find atoms ++ findAll find behind
  | [] => rfl
  | [first] => h.findAll_cons first
  | [first, second] => by
    have htail := h.findAll_cons second
    cases behind with
    | nil => rfl
    | cons third rest =>
      rw [List.cons_append, List.singleton_append, findAll, htail,
        h.third first second third rest rfl]
      rfl
  | first :: second :: third :: atoms => by
    have htail := h.findAll_append (second :: third :: atoms)
    rw [List.cons_append, List.cons_append, List.cons_append, findAll, findAll, ← List.cons_append,
      ← List.cons_append, htail, List.append_assoc]

theorem findAll_flatMap {β : Type} {f : β → List Atom} {bs : List β}
    (h : ∀ b ∈ bs, ∀ rest, Cut find (f b ++ rest)) (atoms : List Atom) :
    findAll find (atoms ++ bs.flatMap f) =
      findAll find atoms ++ bs.flatMap fun b => findAll find (f b) := by
  induction bs generalizing atoms with
  | nil => rw [List.flatMap_nil, List.flatMap_nil, List.append_nil, List.append_nil]
  | cons b bs ih =>
    have htail := ih (fun c hc => h c (List.mem_cons_of_mem _ hc)) (f b)
    rw [List.flatMap_cons, (h b (List.mem_cons_self ..) _).findAll_append, htail,
      List.flatMap_cons]

theorem findAll_intercalate {separator : List Atom}
    (hcut : ∀ rest, Cut find (separator ++ rest))
    (hnone : ∀ rest, findAll find (separator ++ rest) = findAll find rest)
    (parts : List (List Atom)) :
    findAll find (separator.intercalate parts) = parts.flatMap (findAll find) := by
  induction parts with
  | nil => rfl
  | cons part parts ih =>
    cases parts with
    | nil => simp
    | cons other parts =>
      rw [List.intercalate_cons_cons, List.append_assoc, (hcut _).findAll_append, hnone, ih]
      rfl

theorem findAll_intercalate_eq_nil {separator : List Atom}
    (hcut : ∀ rest, Cut find (separator ++ rest))
    (hnone : ∀ rest, findAll find (separator ++ rest) = findAll find rest)
    {parts : List (List Atom)} (h : ∀ part ∈ parts, findAll find part = []) :
    findAll find (separator.intercalate parts) = [] := by
  rw [findAll_intercalate hcut hnone]
  exact List.flatMap_eq_nil_iff.2 h

end Parts

/-- A list that is empty or begins a new clause with a word. -/
inductive Clausal : List Atom → Prop where
  | nil : Clausal []
  | clause (word : String) (atoms : List Atom) : Clausal (.blank :: .word word :: atoms)

theorem Clausal.append {atoms others : List Atom} (hatoms : Clausal atoms)
    (hothers : Clausal others) : Clausal (atoms ++ others) := by
  cases hatoms with
  | nil => exact hothers
  | clause word atoms => exact .clause word (atoms ++ others)

/-! ### Tables and columns -/

theorem Cut.introduced? {first second : Atom} (hfirst : first.exact? = none)
    (hsecond : first = .blank → second.exact? = none) (atoms : List Atom) :
    Cut introduced? (first :: second :: atoms) := by
  constructor
  · rintro _ _ _ _ ⟨⟩
    rw [Sql.introduced?, hfirst, ite_self]
  · rintro _ _ _ _ ⟨⟩
    unfold Sql.introduced?
    split
    · next h => exact hsecond h.1
    · rfl

theorem Cut.column? {name : Atom → Option String} {first : Atom} (hpoint : first ≠ .mark '.')
    (hname : name first = none) (atoms : List Atom) : Cut (column? name) (first :: atoms) := by
  constructor
  · rintro before second _ _ ⟨⟩
    unfold Sql.column?
    split
    · rw [hname]
      cases name before <;> rfl
    · rfl
  · rintro _ _ _ _ ⟨⟩
    exact if_neg hpoint

/-- `find` skips what stands between names: nothing is found at the beginning of a clause, at
what separates the parts of one, or at a keyword that introduces no table. -/
structure Skips {α : Type} (find : Atom → Atom → Atom → Option α) : Prop where
  clause : ∀ word atoms, Cut find (.blank :: .word word :: atoms)
  item : ∀ atoms, Cut find (.mark ',' :: .blank :: atoms)
  sign : ∀ first second third, first.loose? = none → find first second third = none
  keyword : ∀ word third, word ≠ "FROM" → word ≠ "JOIN" → find (.word word) .blank third = none

theorem skips_introduced? : Skips introduced? where
  clause _ _ := .introduced? rfl (fun _ => rfl) _
  item _ := .introduced? rfl (by decide) _
  sign _ _ _ hfirst := if_neg fun h => by
    rcases h.2 with rfl | rfl <;> exact absurd hfirst (Option.some_ne_none _)
  keyword _ _ hfrom hjoin := if_neg (by simp [hfrom, hjoin])

theorem skips_loose : Skips (column? Atom.loose?) where
  clause _ _ := .column? (by decide) rfl _
  item _ := .column? (by decide) rfl _
  sign _ _ _ hfirst := by
    rw [column?, hfirst]
    exact ite_self none
  keyword _ _ _ _ := rfl

namespace Skips

variable {α : Type} {find : Atom → Atom → Atom → Option α}

theorem cut (h : Skips find) {atoms : List Atom} (hatoms : Clausal atoms) : Cut find atoms := by
  cases hatoms with
  | nil => exact .nil
  | clause word atoms => exact h.clause word atoms

/-- Nothing is found that begins with an atom that is no word. -/
theorem findAll_cons (h : Skips find) {first : Atom} (hfirst : first.loose? = none)
    (atoms : List Atom) : findAll find (first :: atoms) = findAll find atoms :=
  Sql.findAll_cons fun second third => h.sign first second third hfirst

theorem findAll_signs (h : Skips find) (signs : List Atom)
    (hsigns : signs.filterMap Atom.loose? = []) (atoms : List Atom) :
    findAll find (signs ++ atoms) = findAll find atoms := by
  induction signs with
  | nil => rfl
  | cons sign signs ih =>
    have hnone := List.filterMap_eq_nil_iff.1 hsigns
    rw [List.cons_append, h.findAll_cons (hnone sign (List.mem_cons_self ..)),
      ih (List.filterMap_eq_nil_iff.2 fun a ha => hnone a (List.mem_cons_of_mem _ ha))]

theorem findAll_word (h : Skips find) {word : String} (hfrom : word ≠ "FROM")
    (hjoin : word ≠ "JOIN") (atoms : List Atom) :
    findAll find (.word word :: .blank :: atoms) = findAll find atoms := by
  rw [findAll_cons_cons fun third => h.keyword word third hfrom hjoin, h.findAll_cons rfl]

theorem findAll_keyword (h : Skips find) {word : String} (hfrom : word ≠ "FROM")
    (hjoin : word ≠ "JOIN") (atoms : List Atom) :
    findAll find (.blank :: .word word :: .blank :: atoms) = findAll find atoms := by
  rw [h.findAll_cons rfl, h.findAll_word hfrom hjoin]

theorem findAll_item (h : Skips find) (atoms : List Atom) :
    findAll find (.mark ',' :: .blank :: atoms) = findAll find atoms := by
  rw [h.findAll_cons rfl, h.findAll_cons rfl]

end Skips

theorem findAll_introduced?_of_no_quoted {atoms : List Atom} (h : ∀ name, .quoted name ∉ atoms) :
    findAll introduced? atoms = [] := by
  fun_induction findAll introduced? atoms with
  | case1 first second third atoms ih =>
    have hthird : third.exact? = none := by
      cases third with
      | quoted name => exact absurd (by simp) (h name)
      | _ => rfl
    rw [introduced?, hthird, ite_self, ih fun name hname => h name (List.mem_cons_of_mem _ hname)]
    rfl
  | case2 => rfl

end Sql

open Sql (Atom)

/-! ### Predicates -/

/-- The column that a column denotes where its names are not in quotes. -/
def Column.folded (column : Column) : Column := ⟨Sql.folded column.table, Sql.folded column.name⟩

namespace Predicate

theorem quoted_not_mem_atoms (p : Predicate) (n : Nat) (name : String) :
    Atom.quoted name ∉ p.atoms .placeholder n := by
  have hopening : ∀ negated, Atom.quoted name ∉ opening negated := by
    intro negated
    cases negated <;> simp [opening]
  induction p generalizing n with
  | compare column op param negated => simp [atoms, hopening, Column.atoms, Atom.placeholder]
  | isNull column negated => simp [atoms, hopening, Column.atoms]
  | logical combinator negated left right ihl ihr => simp [atoms, hopening, ihl, ihr]

/-- The columns of a predicate are found in it, in lower case. -/
theorem findAll_column? (p : Predicate) (n : Nat) :
    Sql.findAll (Sql.column? Atom.loose?) (p.atoms .placeholder n) =
      p.columns.map Column.folded := by
  have hopening : ∀ (negated : Bool) (rest : List Atom),
      Sql.findAll (Sql.column? Atom.loose?) (opening negated ++ rest) =
        Sql.findAll (Sql.column? Atom.loose?) rest := by
    intro negated rest
    have hmark : Atom.loose? (.mark '(') = none := rfl
    have hparenthesis := Sql.skips_loose.findAll_cons hmark rest
    cases negated with
    | false => exact hparenthesis
    | true => exact (Sql.findAll_cons_cons fun _ => rfl).trans hparenthesis
  induction p generalizing n with
  | compare column op param negated =>
    rw [atoms, hopening]
    rfl
  | isNull column negated =>
    rw [atoms, hopening]
    rfl
  | logical combinator negated left right ihl ihr =>
    have hkeyword : combinator.keyword ≠ "FROM" ∧ combinator.keyword ≠ "JOIN" := by
      cases combinator <;> decide
    have hright : Sql.Cut (Sql.column? Atom.loose?) [.mark ')'] :=
      Sql.Cut.column? (by decide) rfl []
    rw [atoms, hopening, (Sql.skips_loose.clause _ _).findAll_append, ihl,
      Sql.skips_loose.findAll_keyword hkeyword.1 hkeyword.2, hright.findAll_append, ihr, columns,
      List.map_append]
    exact congrArg (_ ++ ·) (List.append_nil _)

end Predicate

/-! ### Clauses -/

section Clauses

variable {α : Type} {find : Atom → Atom → Atom → Option α}

/-- In a join nothing is found but at its table. -/
theorem Join.findAll_atoms (h : Sql.Skips find) (join : Join) :
    Sql.findAll find (.blank :: join.atoms .quoted) =
      (find (.word "JOIN") .blank (.quoted join.table)).toList := by
  have hpairs : Sql.findAll find ([Atom.blank, .word "AND", .blank].intercalate
      (join.keyPairs.map (pairAtoms .quoted))) = [] := by
    refine Sql.findAll_intercalate_eq_nil (fun _ => h.clause "AND" _)
      (h.findAll_keyword (by decide) (by decide)) fun part hpart => ?_
    obtain ⟨pair, -, rfl⟩ := List.mem_map.1 hpart
    exact h.findAll_signs (pairAtoms .quoted pair) rfl []
  rw [atoms, h.findAll_keyword (by decide) (by decide), Sql.findAll, h.findAll_cons rfl,
    h.findAll_cons rfl, h.findAll_keyword (by decide) (by decide), hpairs, List.append_nil]

namespace Plan

variable {plan : Plan}

theorem findAll_headAtoms (h : Sql.Skips find) (table : String) :
    Sql.findAll find (plan.headAtoms table) =
      (find (.word "FROM") .blank (.quoted table)).toList ++
        plan.joins.flatMap fun join =>
          (find (.word "JOIN") .blank (.quoted join.table)).toList := by
  have hjoins : ∀ join ∈ plan.joins, ∀ rest,
      Sql.Cut find (.blank :: join.atoms .quoted ++ rest) :=
    fun _ _ _ => h.clause "LEFT" _
  have hlist : Sql.findAll find ([.word "SELECT", .blank, .quoted table, .mark '.', .mark '*',
      .blank, .word "FROM", .blank, .quoted table]) =
        (find (.word "FROM") .blank (.quoted table)).toList := by
    rw [h.findAll_word (by decide) (by decide)]
    exact (h.findAll_signs [.quoted table, .mark '.', .mark '*', .blank] rfl
      [.word "FROM", .blank, .quoted table]).trans (List.append_nil _)
  rw [headAtoms, Sql.findAll_flatMap hjoins, hlist]
  simp only [Join.findAll_atoms h]

theorem findAll_orderAtoms (h : Sql.Skips find) : Sql.findAll find plan.orderAtoms = [] := by
  unfold orderAtoms
  split
  · rfl
  · rw [h.findAll_keyword (by decide) (by decide), h.findAll_word (by decide) (by decide)]
    refine Sql.findAll_intercalate_eq_nil h.item h.findAll_item fun part hpart => ?_
    obtain ⟨term, -, rfl⟩ := List.mem_map.1 hpart
    exact h.findAll_signs (term.column.atoms .quoted) rfl [.blank, _]

theorem findAll_windowAtoms (h : Sql.Skips find) (n : Nat) :
    Sql.findAll find (plan.windowAtoms n) = [] := by
  unfold windowAtoms
  split
  · rfl
  · have hplaceholder : ∀ word : String, word.toList.head? ≠ some '$' →
        "$" ++ toString n ≠ word := by
      rintro _ hword rfl
      exact hword (by simp)
    rw [h.findAll_keyword (by decide) (by decide), Atom.placeholder,
      h.findAll_word (hplaceholder _ (by decide)) (hplaceholder _ (by decide)),
      h.findAll_word (by decide) (by decide)]
    rfl

theorem clausal_conditionAtoms : Sql.Clausal plan.conditionAtoms := by
  unfold conditionAtoms
  split
  · exact .nil
  · exact .clause ..

theorem clausal_orderAtoms : Sql.Clausal plan.orderAtoms := by
  unfold orderAtoms
  split
  · exact .nil
  · exact .clause ..

theorem clausal_windowAtoms (n : Nat) : Sql.Clausal (plan.windowAtoms n) := by
  unfold windowAtoms
  split
  · exact .nil
  · exact .clause ..

/-- In a statement nothing is found but at the tables it introduces and in its predicate. -/
theorem findAll_atoms (h : Sql.Skips find) (table : String) :
    Sql.findAll find (plan.atoms table) =
      ((find (.word "FROM") .blank (.quoted table)).toList ++
        plan.joins.flatMap fun join =>
          (find (.word "JOIN") .blank (.quoted join.table)).toList) ++
        Sql.findAll find plan.conditionAtoms := by
  have hwindow : Sql.Clausal (plan.windowAtoms (1 + plan.filter.params.length)) :=
    clausal_windowAtoms _
  have horder : Sql.Clausal (plan.orderAtoms ++ plan.windowAtoms (1 + plan.filter.params.length)) :=
    clausal_orderAtoms.append hwindow
  rw [atoms, (h.cut (clausal_conditionAtoms.append horder)).findAll_append,
    (h.cut horder).findAll_append, (h.cut hwindow).findAll_append, findAll_headAtoms h,
    findAll_orderAtoms h, findAll_windowAtoms h, List.append_nil, List.append_nil]

end Plan

end Clauses

/-! ### Statements -/

/-- The columns of a term are in quotes. -/
theorem exactColumns_orderText (term : OrderTerm) :
    Sql.exactColumns (Select.orderText term) = [term.column] := by
  rw [Sql.exactColumns, ← term.text_clauseAtoms, term.legible_clauseAtoms.atoms_eq]
  rfl

namespace Plan

variable {plan : Plan}

/-- A statement introduces the table that it lists, and then those that it joins. -/
theorem introducedTables_sql (h : plan.Named) (table : String) :
    Sql.introducedTables (plan.applyTo (Select.ofTable table)).sql =
      table :: plan.joins.map (·.table) := by
  have hcondition : Sql.findAll Sql.introduced? plan.conditionAtoms = [] := by
    unfold conditionAtoms
    split
    · rfl
    · next p _ =>
      rw [Sql.skips_introduced?.findAll_keyword (by decide) (by decide)]
      exact Sql.findAll_introduced?_of_no_quoted (p.quoted_not_mem_atoms 1)
  rw [Sql.introducedTables, atoms_sql h, findAll_atoms Sql.skips_introduced?, hcondition,
    List.append_nil, List.map_eq_flatMap]
  rfl

/-- The columns of a statement that have no quotes are those of the predicate. -/
theorem looseColumns_sql (h : plan.Named) (table : String) :
    Sql.looseColumns (plan.applyTo (Select.ofTable table)).sql =
      plan.filterColumns.map Column.folded := by
  have hcondition : Sql.findAll (Sql.column? Atom.loose?) plan.conditionAtoms =
      plan.filterColumns.map Column.folded := by
    unfold conditionAtoms filterColumns
    cases plan.filter.predicate with
    | none => rfl
    | some p =>
      exact (Sql.skips_loose.findAll_keyword (by decide) (by decide) _).trans (p.findAll_column? 1)
  have hjoins : (plan.joins.flatMap fun join =>
      (Sql.column? Atom.loose? (.word "JOIN") .blank (.quoted join.table)).toList) = [] :=
    List.flatMap_eq_nil_iff.2 fun _ _ => rfl
  rw [Sql.looseColumns, atoms_sql h, findAll_atoms Sql.skips_loose, hcondition, hjoins]
  rfl

end Plan

/-! ### Capital letters -/

/-- Neither part of the column has a capital letter. -/
def Column.IsLower (column : Column) : Prop :=
  ∀ c ∈ column.table.toList ++ column.name.toList, c.isUpper = false

instance (column : Column) : Decidable column.IsLower :=
  List.decidableBAll (fun c : Char => c.isUpper = false)
    (column.table.toList ++ column.name.toList)

theorem isUpper_toLower (c : Char) : c.toLower.isUpper = false := by
  unfold Char.toLower
  split
  · next h =>
    have hlow : 65 ≤ c.val.toNat := UInt32.le_iff_toNat_le.1 h.1
    have hhigh : c.val.toNat ≤ 90 := UInt32.le_iff_toNat_le.1 h.2
    have hsum : (c.val + ('a'.val - 'A'.val)).toNat = c.val.toNat + 32 := by
      rw [UInt32.toNat_add]
      exact Nat.mod_eq_of_lt (Nat.lt_of_le_of_lt (Nat.add_le_add_right hhigh _) (by decide))
    refine decide_eq_false fun hupper => ?_
    have hle : (c.val + ('a'.val - 'A'.val)).toNat ≤ 90 := UInt32.le_iff_toNat_le.1 hupper.2
    omega
  · next h => exact decide_eq_false h

theorem toLower_of_not_isUpper {c : Char} (h : c.isUpper = false) : c.toLower = c := by
  unfold Char.toLower
  rw [dif_neg (of_decide_eq_false h)]

theorem Column.isLower_folded (column : Column) : column.folded.IsLower := by
  intro c hc
  simp only [folded, Sql.folded, lowerCase, String.toList_ofList, List.mem_append,
    List.mem_map] at hc
  rcases hc with ⟨d, -, rfl⟩ | ⟨d, -, rfl⟩ <;> exact isUpper_toLower d

theorem Column.IsLower.folded_eq {column : Column} (h : column.IsLower) :
    column.folded = column := by
  have hname : ∀ name : String, (∀ c ∈ name.toList, c.isUpper = false) →
      Sql.folded name = name := by
    intro name hname
    have hchars : lowerCase name.toList = name.toList :=
      (List.map_congr_left fun c hc => toLower_of_not_isUpper (hname c hc)).trans (List.map_id _)
    rw [Sql.folded, hchars, String.ofList_toList]
  rw [folded, hname _ fun c hc => h c (List.mem_append_left _ hc),
    hname _ fun c hc => h c (List.mem_append_right _ hc)]

/-! ### Agreement -/

/-- Predicate and skeleton of a statement agree on names: every column without quotes is of a
table that the statement introduces, and it is the column that an order by the same path has. -/
structure NamesAgree (scope : Scope) (paths : List FieldPath) (sql : String) : Prop where
  table : ∀ column ∈ Sql.looseColumns sql, column.table ∈ Sql.introducedTables sql
  column : List.Forall₂ (fun path column => ∀ named descending, scope.Names path named →
    Sql.exactColumns (Select.orderText ⟨named, descending⟩) = [column]) paths (Sql.looseColumns sql)

/-- Predicate and skeleton agree iff no path of the filter leads to a capital letter. -/
theorem namesAgree_iff {scope : Scope} {defaultLimit : UInt64} {operators : Operators} {plan : Plan}
    (hnamed : plan.Named) (h : compileIn scope defaultLimit operators = .ok plan) :
    NamesAgree scope operators.filterPaths
        (plan.applyTo (Select.ofTable scope.entity.table)).sql ↔
      ∀ path ∈ operators.filterPaths, ∀ column, scope.Names path column → column.IsLower := by
  obtain ⟨hfilter, -⟩ := compileIn_eq_ok.1 h
  have hnames : List.Forall₂ scope.Names operators.filterPaths plan.filterColumns :=
    names_of_compileFilter hfilter
  constructor
  · intro hagree path hpath column hcolumn
    obtain ⟨loose, hloose, heq⟩ := Outcome.exists_of_mem_left hagree.column hpath
    rw [plan.looseColumns_sql hnamed] at hloose
    obtain ⟨origin, -, rfl⟩ := List.mem_map.1 hloose
    have hsingle := heq column false hcolumn
    rw [exactColumns_orderText] at hsingle
    obtain rfl := (List.cons.inj hsingle).1
    exact origin.isLower_folded
  · intro hlower
    have hfolded : plan.filterColumns.map Column.folded = plan.filterColumns := by
      refine (List.map_congr_left fun column hcolumn => ?_).trans (List.map_id _)
      obtain ⟨path, hpath, hname⟩ := Outcome.exists_of_mem_right hnames hcolumn
      exact (hlower path hpath column hname).folded_eq
    constructor
    · intro column hcolumn
      rw [plan.looseColumns_sql hnamed, hfolded] at hcolumn
      rw [plan.introducedTables_sql hnamed]
      exact table_mem_tables h (List.mem_append_left _ (List.mem_append_left _ hcolumn))
    · rw [plan.looseColumns_sql hnamed, hfolded]
      refine hnames.imp fun path column hname named descending hnamed => ?_
      rw [exactColumns_orderText, hnamed.unique hname]

/-- **Names agree as long as they have no capital letters.** Of any request that compiles, the
statement introduces the tables of its plan, in quotes, and the columns that it has without
quotes are those of the filter, in lower case. These are of tables that the statement
introduces, and the same columns that an order by the paths of the filter would have, if and
only if no path of the filter leads to a table or a column with a capital letter. -/
theorem names_agree_iff_lower (schema : Schema) (defaultLimit : UInt64) (entityName : String)
    (request : Request) (plan : Plan)
    (h : compile schema.catalog defaultLimit entityName request = .ok plan) :
    ∃ (scope : Scope) (operators : Operators),
      Scope.of? schema.catalog entityName = .ok scope ∧ request = operators.request ∧
      Sql.introducedTables (plan.applyTo (Select.ofTable scope.entity.table)).sql =
        plan.tables scope ∧
      Sql.looseColumns (plan.applyTo (Select.ofTable scope.entity.table)).sql =
        plan.filterColumns.map Column.folded ∧
      (NamesAgree scope operators.filterPaths
          (plan.applyTo (Select.ofTable scope.entity.table)).sql ↔
        ∀ path ∈ operators.filterPaths, ∀ column, scope.Names path column → column.IsLower) := by
  obtain ⟨scope, operators, hscope, hrequest, hplan⟩ := compile_eq_ok.1 h
  have hnamed := named_of_compileIn hscope hplan
  exact ⟨scope, operators, hscope, hrequest, plan.introducedTables_sql hnamed _,
    plan.looseColumns_sql hnamed _, namesAgree_iff hnamed hplan⟩

/-- The tables and columns of tickets have no capital letters. -/
theorem names_agree_for_tickets :
    ∃ operators plan, compile tracker.catalog 20 "Ticket" (Operators.request operators) = .ok plan ∧
      operators.filterPaths = [⟨["author", "name"]⟩, ⟨["closed"]⟩] ∧
      NamesAgree ticketScope operators.filterPaths
        (plan.applyTo (Select.ofTable "tickets")).sql := by
  let operators : Operators :=
    ⟨some ((Filter.text ⟨["author", "name"]⟩ .eq "Ada" false).and (.null ⟨["closed"]⟩ false)),
      none, none, none⟩
  obtain ⟨plan, hplan⟩ : ∃ plan, compileIn ticketScope 20 operators = .ok plan := ⟨_, rfl⟩
  have h := (compile_request_eq scope_ticket 20 operators).trans hplan
  obtain ⟨scope, others, hscope, hrequest, -, -, hiff⟩ :=
    names_agree_iff_lower tracker 20 "Ticket" operators.request plan h
  obtain rfl := Except.ok.inj (hscope.symm.trans scope_ticket)
  have hpaths : others.filterPaths = [⟨["author", "name"]⟩, ⟨["closed"]⟩] := by
    have hfilter : others.filter = operators.filter :=
      (Except.ok.inj (congrArg Request.filter hrequest)).symm
    rw [Operators.filterPaths, hfilter]
    rfl
  rw [hpaths] at hiff
  refine ⟨operators, plan, h, rfl, hiff.2 fun path hpath column hnames => ?_⟩
  have hlower : ∀ found : Resolved, ticketScope.resolve path = .ok found →
      found.column.IsLower → column.IsLower := by
    intro found hfound hlower
    rwa [hnames.unique (Scope.names_of_resolve hfound)]
  simp only [List.mem_cons, List.not_mem_nil, or_false] at hpath
  rcases hpath with rfl | rfl
  · exact hlower ⟨⟨"users", "name"⟩, some "author"⟩ rfl (by decide +kernel)
  · exact hlower ⟨⟨"tickets", "closed_at"⟩, none⟩ rfl (by decide +kernel)

/-- Items in a table whose name has a capital letter. -/
def capitalEntities : NameMap Entity :=
  .ofList
    [("Item",
        { table := "Items"
          fields := .ofList [("name", "name")]
          associations := .empty })]

/-- The schema of such items. -/
def capitals : Schema := ⟨capitalEntities, by decide +kernel⟩

/-- The scope of such items. -/
def capitalScope : Scope :=
  ⟨capitals.catalog, "Item", (capitalEntities.get? "Item").get (by decide +kernel)⟩

/-- A filter of such items speaks of a table that the statement does not introduce. -/
theorem names_differ_with_capitals :
    ∃ operators plan, Scope.of? capitals.catalog "Item" = .ok capitalScope ∧
      compile capitals.catalog 20 "Item" (Operators.request operators) = .ok plan ∧
      (plan.applyTo (Select.ofTable "Items")).sql =
        "SELECT \"Items\".* FROM \"Items\" WHERE (Items.name = $1)" ∧
      Sql.introducedTables (plan.applyTo (Select.ofTable "Items")).sql = ["Items"] ∧
      Sql.looseColumns (plan.applyTo (Select.ofTable "Items")).sql = [⟨"items", "name"⟩] ∧
      ¬ NamesAgree capitalScope operators.filterPaths
        (plan.applyTo (Select.ofTable "Items")).sql := by
  let operators : Operators := ⟨some (.text ⟨["name"]⟩ .eq "pen" false), none, none, none⟩
  obtain ⟨plan, hplan⟩ : ∃ plan, compileIn capitalScope 20 operators = .ok plan := ⟨_, rfl⟩
  have hscope : Scope.of? capitals.catalog "Item" = .ok capitalScope := rfl
  have h := (compile_request_eq hscope 20 operators).trans hplan
  have hnamed := named_of_compileIn hscope hplan
  have htables := plan.introducedTables_sql hnamed "Items"
  have hcolumns := plan.looseColumns_sql hnamed "Items"
  obtain rfl := Except.ok.inj hplan
  refine ⟨operators, _, hscope, h, ?_, htables, hcolumns, fun hagree => ?_⟩
  · decide +kernel
  · have htable := hagree.table ⟨"items", "name"⟩ (hcolumns ▸ List.mem_singleton.2 rfl)
    rw [htables] at htable
    exact absurd htable (by decide)

end RequestSql
