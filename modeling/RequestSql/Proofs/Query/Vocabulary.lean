import RequestSql.Proofs.Plan.Joined
import RequestSql.Proofs.Query.Statement

/-!
# What stands in a statement

Every text that a request compiles to consists of atoms of two sorts only. Some are fixed:
blanks, keywords, operators, signs and placeholders. All others are names that the schema
declares for the entity of the request: its table and that of an entity it is associated
with, columns behind the fields of these, and keys of the associations. So whatever a request
says, none of its own texts gets into a statement.

Key definitions: `Scope.Declares`, `Scope.Permits`, `Scope.Vetted`.
Key theorems: `Scope.permitsAll_predicate`, `Scope.permitsAll_statement`,
`texts_are_vetted`.
-/

namespace RequestSql

open Sql (Atom)

/-! ### What is permitted -/

/-- The names that are declared for the entity. -/
inductive Scope.Declares (scope : Scope) : String → Prop where
  | table : Declares scope scope.entity.table
  | column {field column : String} :
      scope.entity.fields.get? field = some column → Declares scope column
  | targetTable {name : String} {association : Association} {target : Entity} :
      scope.Leads name association target → Declares scope target.table
  | targetColumn {name field column : String} {association : Association} {target : Entity} :
      scope.Leads name association target → target.fields.get? field = some column →
        Declares scope column
  | sourceKey {name key : String} {association : Association} :
      scope.entity.associations.get? name = some association → key ∈ association.sourceKeys →
        Declares scope key
  | targetKey {name key : String} {association : Association} :
      scope.entity.associations.get? name = some association → key ∈ association.targetKeys →
        Declares scope key

namespace Sql

/-- The words that statements are made of. -/
def keywords : List String :=
  ["SELECT", "FROM", "LEFT", "JOIN", "ON", "WHERE", "NOT", "AND", "OR", "IS", "NULL", "ORDER",
    "BY", "ASC", "DESC", "desc", "LIMIT", "OFFSET"]

/-- The operators that statements are made of. -/
def operators : List String := ["=", "~", ">", ">=", "<", "<="]

/-- The signs that statements are made of; `?` stands for a value. -/
def signs : List Char := ['(', ')', '.', ',', '*', '?']

/-- Whether an atom is the same in all statements. -/
def Atom.isFixed : Atom → Bool
  | blank => true
  | word text => keywords.contains text
  | operator text => operators.contains text
  | quoted _ => false
  | mark c => signs.contains c

end Sql

namespace Scope

/-- An atom that may stand in a text for the entity: a fixed one, the placeholder of a value,
or a declared name that is an identifier, in quotes or not. -/
inductive Permits (scope : Scope) : Atom → Prop where
  | fixed {atom : Atom} : atom.isFixed = true → Permits scope atom
  | placeholder (n : Nat) : 0 < n → Permits scope (.placeholder n)
  | word {name : String} : isIdentifier name = true → scope.Declares name →
      Permits scope (.word name)
  | quoted {name : String} : isIdentifier name = true → scope.Declares name →
      Permits scope (.quoted name)

/-- All of the atoms may stand in a text for the entity. -/
def PermitsAll (scope : Scope) (atoms : List Atom) : Prop := ∀ atom ∈ atoms, scope.Permits atom

/-- The text is cut into atoms, without a rest, that may stand in it. -/
structure Vetted (scope : Scope) (text : String) : Prop where
  whole : (Sql.atoms text.toList).flatMap Atom.text = text.toList
  permitted : scope.PermitsAll (Sql.atoms text.toList)

variable {scope : Scope}

theorem Vetted.of_permitsAll {text : String} (h : scope.PermitsAll (Sql.atoms text.toList)) :
    scope.Vetted text :=
  ⟨Sql.flatMap_text_atoms _, h⟩

namespace PermitsAll

variable {atom : Atom} {atoms others : List Atom}

theorem nil : scope.PermitsAll [] := by
  rintro atom ⟨⟩

theorem cons (h : scope.Permits atom) (hatoms : scope.PermitsAll atoms) :
    scope.PermitsAll (atom :: atoms) :=
  List.forall_mem_cons.2 ⟨h, hatoms⟩

theorem fixed (h : atom.isFixed = true) (hatoms : scope.PermitsAll atoms) :
    scope.PermitsAll (atom :: atoms) :=
  cons (.fixed h) hatoms

theorem append (hatoms : scope.PermitsAll atoms) (hothers : scope.PermitsAll others) :
    scope.PermitsAll (atoms ++ others) :=
  List.forall_mem_append.2 ⟨hatoms, hothers⟩

theorem flatMap {α : Type} {f : α → List Atom} {as : List α}
    (h : ∀ a ∈ as, scope.PermitsAll (f a)) : scope.PermitsAll (as.flatMap f) := by
  intro atom hatom
  obtain ⟨a, ha, hmem⟩ := List.mem_flatMap.1 hatom
  exact h a ha atom hmem

theorem intercalate {separator : List Atom} (hseparator : scope.PermitsAll separator)
    {parts : List (List Atom)} (h : ∀ part ∈ parts, scope.PermitsAll part) :
    scope.PermitsAll (separator.intercalate parts) :=
  Text.forall_mem_intercalate hseparator h

end PermitsAll

/-! ### Names -/

/-- The table and the name of a column are declared for the entity. -/
def DeclaresColumn (scope : Scope) (column : Column) : Prop :=
  scope.Declares column.table ∧ scope.Declares column.name

theorem Names.declares {path : FieldPath} {column : Column} (h : scope.Names path column) :
    scope.DeclaresColumn column := by
  cases h with
  | own hcolumn => exact ⟨.table, .column hcolumn⟩
  | across hleads hcolumn => exact ⟨.targetTable hleads, .targetColumn hleads hcolumn⟩

theorem declares_of_join {name : String} {join : Join} (h : scope.join name = .ok join) :
    scope.Declares join.table ∧
      ∀ pair ∈ join.keyPairs, scope.DeclaresColumn pair.1 ∧ scope.DeclaresColumn pair.2 := by
  have htable : scope.Declares join.table := by
    obtain ⟨association, target, hleads, rfl⟩ := join_eq_ok.1 h
    exact .targetTable hleads
  refine ⟨htable, fun pair hpair => ?_⟩
  obtain ⟨association, hdeclared, source, hsource, own, hown, rfl⟩ := mem_keyPairs_of_join h hpair
  exact ⟨⟨htable, .sourceKey hdeclared hsource⟩, ⟨.table, .targetKey hdeclared hown⟩⟩

/-- However names are written, declared identifiers may stand there. -/
def PermitsNames (scope : Scope) (name : String → Atom) : Prop :=
  ∀ text, isIdentifier text = true → scope.Declares text → scope.Permits (name text)

theorem permitsNames_word : scope.PermitsNames .word := fun _ => .word

theorem permitsNames_quoted : scope.PermitsNames .quoted := fun _ => .quoted

theorem permitsAll_column {name : String → Atom} (hname : scope.PermitsNames name)
    {column : Column} (hnamed : column.Named) (h : scope.DeclaresColumn column) :
    scope.PermitsAll (column.atoms name) :=
  .cons (hname _ hnamed.table h.1) (.fixed (by decide) (.cons (hname _ hnamed.name h.2) .nil))

/-! ### Texts of a plan -/

theorem permitsAll_opening (negated : Bool) : scope.PermitsAll (Predicate.opening negated) := by
  cases negated with
  | false => exact .fixed (by decide) .nil
  | true => exact .fixed (by decide) (.fixed (by decide) .nil)

/-- A predicate over declared columns consists of what is permitted. -/
theorem permitsAll_predicate {placeholder : Nat → Atom}
    (hplaceholder : ∀ n, 0 < n → scope.Permits (placeholder n)) {p : Predicate} (hp : p.Named)
    (h : ∀ column ∈ p.columns, scope.DeclaresColumn column) {n : Nat} (hn : 0 < n) :
    scope.PermitsAll (p.atoms placeholder n) := by
  have hclosing : scope.PermitsAll [.mark ')'] := .fixed (by decide) .nil
  induction p generalizing n with
  | compare column op param negated =>
    have hcolumn := permitsAll_column permitsNames_word hp (h column (List.mem_cons_self ..))
    have hop : (Atom.operator op.text).isFixed = true := by cases op <;> decide
    exact (permitsAll_opening negated).append (hcolumn.append
      (.fixed rfl (.fixed hop (.fixed rfl (.cons (hplaceholder n hn) hclosing)))))
  | isNull column negated =>
    have hcolumn := permitsAll_column permitsNames_word hp (h column (List.mem_cons_self ..))
    exact (permitsAll_opening negated).append (hcolumn.append
      (.fixed rfl (.fixed (by decide) (.fixed rfl (.fixed (by decide) hclosing)))))
  | logical combinator negated left right ihl ihr =>
    have hleft := ihl hp.1 (fun column hcolumn => h column (List.mem_append_left _ hcolumn)) hn
    have hright := ihr hp.2 (fun column hcolumn => h column (List.mem_append_right _ hcolumn))
      (Nat.add_pos_left hn left.paramCount)
    have hkeyword : (Atom.word combinator.keyword).isFixed = true := by
      cases combinator <;> decide
    exact (permitsAll_opening negated).append (hleft.append
      (.fixed rfl (.fixed hkeyword (.fixed rfl (hright.append hclosing)))))

theorem permitsAll_join {name : String → Atom} (hname : scope.PermitsNames name) {join : Join}
    (hnamed : join.Named) (h : scope.join join.association = .ok join) :
    scope.PermitsAll (join.atoms name) := by
  obtain ⟨htable, hpairs⟩ := declares_of_join h
  have hpair : ∀ atoms ∈ join.keyPairs.map (Join.pairAtoms name), scope.PermitsAll atoms := by
    intro atoms hatoms
    obtain ⟨pair, hpair, rfl⟩ := List.mem_map.1 hatoms
    have hsource := permitsAll_column hname (hnamed.pair pair hpair).1 (hpairs pair hpair).1
    have hown := permitsAll_column hname (hnamed.pair pair hpair).2 (hpairs pair hpair).2
    exact hsource.append (.fixed rfl (.fixed (by decide) (.fixed rfl hown)))
  have hand : scope.PermitsAll [.blank, .word "AND", .blank] :=
    .fixed rfl (.fixed (by decide) (.fixed rfl .nil))
  have hon : scope.PermitsAll (.blank :: .word "ON" :: .blank ::
      [Atom.blank, .word "AND", .blank].intercalate (join.keyPairs.map (Join.pairAtoms name))) :=
    .fixed rfl (.fixed (by decide) (.fixed rfl (.intercalate hand hpair)))
  exact .fixed (by decide) (.fixed rfl (.fixed (by decide) (.fixed rfl
    (.cons (hname _ hnamed.table htable) hon))))

section Plan

variable {defaultLimit : UInt64} {operators : Operators} {plan : Plan}

/-- The columns of a plan are declared for its entity. -/
theorem declaresColumn_of_mem_columns (h : compileIn scope defaultLimit operators = .ok plan)
    {column : Column} (hcolumn : column ∈ plan.columns) : scope.DeclaresColumn column := by
  obtain ⟨path, -, hnames⟩ := Outcome.exists_of_mem_right (names_of_compileIn h) hcolumn
  exact hnames.declares

theorem declaresColumn_of_predicate (h : compileIn scope defaultLimit operators = .ok plan)
    {p : Predicate} (hp : plan.filter.predicate = some p) :
    ∀ column ∈ p.columns, scope.DeclaresColumn column := by
  intro column hcolumn
  refine declaresColumn_of_mem_columns h (List.mem_append_left _ ?_)
  rw [Plan.filterColumns, hp]
  exact hcolumn

theorem permitsAll_conditionAtoms (hnamed : plan.Named)
    (h : compileIn scope defaultLimit operators = .ok plan) :
    scope.PermitsAll plan.conditionAtoms := by
  unfold Plan.conditionAtoms
  split
  · exact .nil
  · next p hp =>
    exact .fixed rfl (.fixed (by decide) (.fixed rfl (permitsAll_predicate .placeholder
      (hnamed.predicate hp) (declaresColumn_of_predicate h hp) Nat.one_pos)))

theorem permitsAll_orderAtoms (hnamed : plan.Named)
    (h : compileIn scope defaultLimit operators = .ok plan) :
    scope.PermitsAll plan.orderAtoms := by
  unfold Plan.orderAtoms
  split
  · exact .nil
  · have hterms : ∀ atoms ∈ plan.sort.terms.map OrderTerm.clauseAtoms, scope.PermitsAll atoms := by
      intro atoms hatoms
      obtain ⟨term, hterm, rfl⟩ := List.mem_map.1 hatoms
      have hcolumn : term.column ∈ plan.columns :=
        List.mem_append_right _ (List.mem_map_of_mem hterm)
      have hdirection :
          (Atom.word (if term.descending then "DESC" else "ASC")).isFixed = true := by
        cases term.descending <;> decide
      exact (permitsAll_column permitsNames_quoted (hnamed.column _ hcolumn)
        (declaresColumn_of_mem_columns h hcolumn)).append (.fixed rfl (.fixed hdirection .nil))
    have hcomma : scope.PermitsAll [.mark ',', .blank] := .fixed (by decide) (.fixed rfl .nil)
    exact .fixed rfl (.fixed (by decide) (.fixed rfl (.fixed (by decide) (.fixed rfl
      (.intercalate hcomma hterms)))))

theorem permitsAll_windowAtoms {n : Nat} (hn : 0 < n) :
    scope.PermitsAll (plan.windowAtoms n) := by
  unfold Plan.windowAtoms
  split
  · exact .nil
  · exact .fixed rfl (.fixed (by decide) (.fixed rfl (.cons (.placeholder n hn) (.fixed rfl
      (.fixed (by decide) (.fixed rfl (.cons (.placeholder _ n.succ_pos) .nil)))))))

/-- The statement of a plan consists of what is permitted. -/
theorem permitsAll_statement (hscope : scope.Named) (hnamed : plan.Named)
    (h : compileIn scope defaultLimit operators = .ok plan) :
    scope.PermitsAll (plan.atoms scope.entity.table) := by
  have htable : scope.Permits (.quoted scope.entity.table) := .quoted hscope.entity.table .table
  have hjoins : scope.PermitsAll
      (plan.joins.flatMap fun join => Atom.blank :: join.atoms .quoted) := by
    refine .flatMap fun join hjoin => .fixed rfl ?_
    exact permitsAll_join permitsNames_quoted (hnamed.join join hjoin) (join_of_mem_joins h hjoin)
  have hfrom : scope.PermitsAll [.blank, .word "FROM", .blank, .quoted scope.entity.table] :=
    .fixed rfl (.fixed (by decide) (.fixed rfl (.cons htable .nil)))
  have hcolumns : scope.PermitsAll [.word "SELECT", .blank, .quoted scope.entity.table, .mark '.',
      .mark '*', .blank, .word "FROM", .blank, .quoted scope.entity.table] :=
    .fixed (by decide) (.fixed rfl (.cons htable
      (.fixed (by decide) (.fixed (by decide) hfrom))))
  have hwindow : scope.PermitsAll (plan.windowAtoms (1 + plan.filter.params.length)) :=
    permitsAll_windowAtoms (Nat.add_pos_left Nat.one_pos _)
  exact (hcolumns.append hjoins).append ((permitsAll_conditionAtoms hnamed h).append
    ((permitsAll_orderAtoms hnamed h).append hwindow))

theorem vetted_filterText (hnamed : plan.Named)
    (h : compileIn scope defaultLimit operators = .ok plan) : scope.Vetted plan.filter.text := by
  refine .of_permitsAll ?_
  unfold CompiledFilter.text
  split
  · rw [show "".toList = [] from rfl, Sql.atoms]
    exact .nil
  · next p hp =>
    rw [atoms_predicateText (hnamed.predicate hp)]
    exact permitsAll_predicate (fun _ _ => .fixed (by decide)) (hnamed.predicate hp)
      (declaresColumn_of_predicate h hp) Nat.one_pos

theorem vetted_termText (hnamed : plan.Named)
    (h : compileIn scope defaultLimit operators = .ok plan) {term : OrderTerm}
    (hterm : term ∈ plan.sort.terms) : scope.Vetted term.text := by
  have hcolumn : term.column ∈ plan.columns :=
    List.mem_append_right _ (List.mem_map_of_mem hterm)
  have hdirection : scope.PermitsAll
      (if term.descending then [.blank, .word "desc"] else []) := by
    cases term.descending with
    | false => exact .nil
    | true => exact .fixed rfl (.fixed (by decide) .nil)
  refine .of_permitsAll ?_
  rw [atoms_termText (hnamed.column _ hcolumn)]
  exact (permitsAll_column permitsNames_word (hnamed.column _ hcolumn)
    (declaresColumn_of_mem_columns h hcolumn)).append hdirection

theorem vetted_joinText (hnamed : plan.Named)
    (h : compileIn scope defaultLimit operators = .ok plan) {join : Join}
    (hjoin : join ∈ plan.joins) : scope.Vetted join.text := by
  refine .of_permitsAll ?_
  rw [atoms_joinText (hnamed.join join hjoin)]
  exact permitsAll_join permitsNames_word (hnamed.join join hjoin) (join_of_mem_joins h hjoin)

end Plan

end Scope

/-- **Nothing but declared names gets into a text.** Whatever request compiles for an entity of
a well-formed schema, given as operators or read from parameters: the text of its predicate,
of every term of its order and of every join, and the statement that lists the table of the
entity, are cut without a rest into fixed atoms, placeholders, and identifiers which the schema
declares as a table of the entity or of one that it is associated with, as a column of these, or
as a key of one of its associations. And everything that is preloaded is an association of the
entity. -/
theorem texts_are_vetted (schema : Schema) (defaultLimit : UInt64) (entityName : String)
    (request : Request) (plan : Plan)
    (h : compile schema.catalog defaultLimit entityName request = .ok plan) :
    ∃ scope, Scope.of? schema.catalog entityName = .ok scope ∧
      scope.Vetted plan.filter.text ∧
      (∀ term ∈ plan.sort.terms, scope.Vetted term.text) ∧
      (∀ join ∈ plan.joins, scope.Vetted join.text) ∧
      scope.Vetted (plan.applyTo (Select.ofTable scope.entity.table)).sql ∧
      ∀ name ∈ plan.preloads, scope.entity.associations.contains name = true := by
  obtain ⟨scope, operators, hscope, rfl, hplan⟩ := compile_eq_ok.1 h
  have hnamed := named_of_compileIn hscope hplan
  obtain ⟨-, -, -, hpreloads, -⟩ := compileIn_eq_ok.1 hplan
  refine ⟨scope, hscope, Scope.vetted_filterText hnamed hplan,
    fun _ hterm => Scope.vetted_termText hnamed hplan hterm,
    fun _ hjoin => Scope.vetted_joinText hnamed hplan hjoin, .of_permitsAll ?_,
    fun _ hname => contains_of_mem_preloads hpreloads hname⟩
  rw [plan.atoms_sql hnamed]
  exact Scope.permitsAll_statement (Scope.named_of_of? schema.catalog_named hscope) hnamed hplan

/-- A request with a quotation in a value gets a statement over three tables in which only the
names of tables, columns and keys stand. -/
theorem texts_are_vetted_of_tickets :
    ∃ operators plan, compile tracker.catalog 20 "Ticket" (Operators.request operators) = .ok plan ∧
      (plan.applyTo (Select.ofTable "tickets")).sql =
        "SELECT \"tickets\".* FROM \"tickets\"" ++
        " LEFT JOIN \"users\" ON \"users\".\"id\" = \"tickets\".\"author_id\"" ++
        " LEFT JOIN \"projects\" ON \"projects\".\"tenant\" = \"tickets\".\"tenant\"" ++
        " AND \"projects\".\"code\" = \"tickets\".\"project_code\"" ++
        " WHERE NOT(users.name ~ $1) ORDER BY \"projects\".\"name\" DESC LIMIT $2 OFFSET $3" ∧
      ticketScope.Vetted (plan.applyTo (Select.ofTable "tickets")).sql ∧
      plan.preloads = ["parent"] ∧ ticketScope.entity.associations.contains "parent" = true := by
  let operators : Operators :=
    ⟨some (.text ⟨["author", "name"]⟩ .matching "' OR \"1\" = $1 --" true),
      some [⟨"project.name", true⟩], some ⟨0, 10⟩, some ⟨["parent", "title"], false⟩⟩
  obtain ⟨plan, hplan⟩ : ∃ plan, compileIn ticketScope 20 operators = .ok plan := ⟨_, rfl⟩
  have h := (compile_request_eq scope_ticket 20 operators).trans hplan
  obtain ⟨scope, hscope, -, -, -, hvetted, hpreloads⟩ :=
    texts_are_vetted tracker 20 "Ticket" operators.request plan h
  obtain rfl := Except.ok.inj (hscope.symm.trans scope_ticket)
  have hparent : plan.preloads = ["parent"] := by
    obtain rfl := Except.ok.inj hplan
    rfl
  refine ⟨operators, plan, h, ?_, hvetted, hparent, hpreloads "parent" ?_⟩
  · obtain rfl := Except.ok.inj hplan
    decide +kernel
  · rw [hparent]
    exact List.mem_singleton.2 rfl

end RequestSql
