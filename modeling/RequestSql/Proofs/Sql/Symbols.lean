import RequestSql.Proofs.Plan.PredicateText
import RequestSql.Proofs.Schema.Names
import RequestSql.Proofs.Sql.Condition
import RequestSql.Proofs.Text.Run

/-!
# Reading the text of a condition

A text is cut into symbols from left to right: blanks are passed over, a word takes all
the characters that may continue it, and so does an operator. A word with a point and
another word behind it is a column, any other word has to be a keyword, in either case.
The parameters go along: every `?` takes the next one, and in the end none may be left, so
the `i`-th `?` stands for the `i`-th parameter.

The text of a predicate is cut into the symbols that one expects, and these are a
condition of the grammar. The first half is put together from steps (`Scans`): what one
piece of text is cut into does not depend on what follows, as long as what follows does
not continue the piece.

Key definitions: `Sql.symbols`, `Sql.Reads`, `Sql.IsReading`, `Predicate.condition`.
Key theorems: `Sql.scans_predicate`, `Sql.derives_predicate`, `Sql.isReading_predicate`.
-/

namespace RequestSql.Sql

/-! ### Symbols -/

/-- Whether a character may stand in an operator. -/
def isOperatorChar (c : Char) : Bool := c == '=' || c == '~' || c == '<' || c == '>'

/-- The operator that a run of such characters is. -/
def operator? : List Char → Option Symbol
  | ['='] => some (.op "=")
  | ['~'] => some (.op "~")
  | ['>'] => some (.op ">")
  | ['>', '='] => some (.op ">=")
  | ['<'] => some (.op "<")
  | ['<', '='] => some (.op "<=")
  | _ => none

/-- The keyword that a word is. -/
def keyword? (word : List Char) : Option Symbol :=
  match word.map Char.toUpper with
  | ['N', 'O', 'T'] => some .not
  | ['A', 'N', 'D'] => some .and
  | ['O', 'R'] => some .or
  | ['I', 'S'] => some .is
  | ['N', 'U', 'L', 'L'] => some .null
  | _ => none

/-- The symbol that a word begins, and what follows it. -/
def wordSymbol (word : List Char) : List Char → Option (Symbol × List Char)
  | '.' :: c :: cs =>
    if isIdentifierStart c then
      some (.column ⟨String.ofList word, String.ofList (c :: cs.takeWhile isIdentifierPart)⟩,
        cs.dropWhile isIdentifierPart)
    else none
  | cs => (keyword? word).map (·, cs)

/-- The symbol that begins with `c`, and what follows it. -/
def symbol (c : Char) (cs : List Char) : Option (Symbol × List Char) :=
  if c = '(' then some (.opening, cs)
  else if c = ')' then some (.closing, cs)
  else if isOperatorChar c then
    (operator? (c :: cs.takeWhile isOperatorChar)).map (·, cs.dropWhile isOperatorChar)
  else if isIdentifierStart c then
    wordSymbol (c :: cs.takeWhile isIdentifierPart) (cs.dropWhile isIdentifierPart)
  else none

theorem wordSymbol_length {word cs rest : List Char} {s : Symbol}
    (h : wordSymbol word cs = some (s, rest)) : rest.length ≤ cs.length := by
  unfold wordSymbol at h
  split at h
  · next c cs =>
    split at h
    · obtain ⟨-, rfl⟩ := Prod.mk.inj (Option.some.inj h)
      have := (List.dropWhile_sublist isIdentifierPart (l := cs)).length_le
      simp only [List.length_cons]
      omega
    · cases h
  · obtain ⟨k, -, heq⟩ := Option.map_eq_some_iff.1 h
    obtain ⟨-, rfl⟩ := Prod.mk.inj heq
    exact Nat.le_refl _

theorem symbol_length {c : Char} {cs rest : List Char} {s : Symbol}
    (h : symbol c cs = some (s, rest)) : rest.length ≤ cs.length := by
  unfold symbol at h
  split at h
  · obtain ⟨-, rfl⟩ := Prod.mk.inj (Option.some.inj h)
    exact Nat.le_refl _
  · split at h
    · obtain ⟨-, rfl⟩ := Prod.mk.inj (Option.some.inj h)
      exact Nat.le_refl _
    · split at h
      · obtain ⟨k, -, heq⟩ := Option.map_eq_some_iff.1 h
        rw [← (Prod.mk.inj heq).2]
        exact (List.dropWhile_sublist _).length_le
      · split at h
        · exact Nat.le_trans (wordSymbol_length h) (List.dropWhile_sublist _).length_le
        · cases h

/-- The symbols of a text, each `?` with its parameter. -/
def symbols (params : List Param) (cs : List Char) : Option (List Symbol) :=
  match cs with
  | [] => if params.isEmpty then some [] else none
  | c :: cs =>
    if c.isWhitespace then symbols params cs
    else if c = '?' then
      match params with
      | [] => none
      | param :: params => (symbols params cs).map (.value param :: ·)
    else
      match _h : symbol c cs with
      | none => none
      | some (s, rest) => (symbols params rest).map (s :: ·)
termination_by cs.length
decreasing_by
  · simp
  · simp
  · exact Nat.lt_succ_of_le (symbol_length _h)

/-- The text with its parameters can be read as a condition. -/
def Reads (text : String) (params : List Param) (c : Condition) : Prop :=
  ∃ ts, symbols params text.toList = some ts ∧ Derives .disjunction ts c

/-- The text with its parameters can be read as this condition, and as no other one. -/
def IsReading (text : String) (params : List Param) (c : Condition) : Prop :=
  Reads text params c ∧ ∀ d, Reads text params d → d = c

theorem Reads.isReading {text : String} {params : List Param} {c : Condition}
    (h : Reads text params c) : IsReading text params c := by
  refine ⟨h, fun d hd => ?_⟩
  obtain ⟨ts, hts, hc⟩ := h
  obtain ⟨us, hus, hd⟩ := hd
  obtain rfl : us = ts := Option.some.inj (hus.symm.trans hts)
  exact hd.unique hc

/-! ### Steps -/

/-- From `cs` on, with `params` to go, the first symbols are `ts`; after them `rest` is left
of the text and `left` of the parameters. -/
def Scans (params : List Param) (cs : List Char) (ts : List Symbol) (left : List Param)
    (rest : List Char) : Prop :=
  symbols params cs = (symbols left rest).map (ts ++ ·)

theorem Scans.trans {params mid left : List Param} {cs ds rest : List Char}
    {ts us : List Symbol} (h : Scans params cs ts mid ds) (h' : Scans mid ds us left rest) :
    Scans params cs (ts ++ us) left rest := by
  unfold Scans at *
  rw [h, h', Option.map_map]
  congr 1
  funext vs
  exact (List.append_assoc ts us vs).symm

variable {params : List Param}

theorem scans_space (cs : List Char) : Scans params (' ' :: cs) [] params cs := by
  unfold Scans
  rw [symbols.eq_def]
  simp only
  rw [if_pos (by decide)]
  cases symbols params cs <;> rfl

theorem scans_mark (param : Param) (cs : List Char) :
    Scans (param :: params) ('?' :: cs) [.value param] params cs := by
  unfold Scans
  rw [symbols, if_neg (by decide), if_pos rfl]
  rfl

theorem scans_symbol {c : Char} {cs rest : List Char} {s : Symbol}
    (hblank : c.isWhitespace = false) (hmark : c ≠ '?') (h : symbol c cs = some (s, rest)) :
    Scans params (c :: cs) [s] params rest := by
  unfold Scans
  rw [symbols.eq_def]
  simp only
  rw [hblank, if_neg Bool.false_ne_true, if_neg hmark]
  split
  · next hnone => rw [h] at hnone; cases hnone
  · next heq =>
    rw [h] at heq
    obtain ⟨rfl, rfl⟩ := Prod.mk.inj (Option.some.inj heq)
    rfl

theorem scans_opening (cs : List Char) : Scans params ('(' :: cs) [.opening] params cs :=
  scans_symbol (by decide) (by decide) rfl

theorem scans_closing (cs : List Char) : Scans params (')' :: cs) [.closing] params cs :=
  scans_symbol (by decide) (by decide) rfl

/-- What begins an identifier is no blank, no mark, no parenthesis and no operator. -/
theorem plain_of_isIdentifierStart {c : Char} (h : isIdentifierStart c = true) :
    c.isWhitespace = false ∧ c ≠ '?' ∧ c ≠ '(' ∧ c ≠ ')' ∧ isOperatorChar c = false := by
  have hne : ∀ d, isIdentifierStart d = false → c ≠ d := fun d hd => Text.ne_of_apart h hd
  refine ⟨?_, hne '?' (by decide), hne '(' (by decide), hne ')' (by decide), ?_⟩
  · simp [Char.isWhitespace, hne ' ' (by decide), hne '\t' (by decide), hne '\r' (by decide),
      hne '\n' (by decide)]
  · simp [isOperatorChar, hne '=' (by decide), hne '~' (by decide), hne '<' (by decide),
      hne '>' (by decide)]

/-- A word is cut off where it ends. -/
theorem scans_word {c d : Char} (word : List Char) {cs rest : List Char} {s : Symbol}
    (hc : isIdentifierStart c = true) (hall : word.all isIdentifierPart = true)
    (hd : isIdentifierPart d = false)
    (h : wordSymbol (c :: word) (d :: cs) = some (s, rest)) :
    Scans params (c :: (word ++ d :: cs)) [s] params rest := by
  have hword := List.all_eq_true.1 hall
  obtain ⟨hblank, hmark, hopening, hclosing, hoperator⟩ := plain_of_isIdentifierStart hc
  refine scans_symbol hblank hmark ?_
  unfold symbol
  rw [if_neg hopening, if_neg hclosing, hoperator, if_neg Bool.false_ne_true, if_pos hc,
    Text.takeWhile_run hword hd, Text.dropWhile_run hword hd, h]

/-- A table, a point and a column are one symbol. -/
theorem scans_column {column : Column} (hcolumn : column.Named) (cs : List Char) :
    Scans params (column.table.toList ++ '.' :: (column.name.toList ++ ' ' :: cs))
      [.column column] params (' ' :: cs) := by
  obtain ⟨c, table, htable, hc, hparts⟩ := exists_cons_of_isIdentifier hcolumn.table
  obtain ⟨d, name, hname, hd, hparts'⟩ := exists_cons_of_isIdentifier hcolumn.name
  rw [htable, hname, List.cons_append, List.cons_append]
  refine scans_word table hc (List.all_eq_true.2 hparts) (by decide) ?_
  unfold wordSymbol
  simp only
  rw [if_pos hd, Text.takeWhile_run hparts' (by decide), Text.dropWhile_run hparts' (by decide),
    ← htable, ← hname, String.ofList_toList, String.ofList_toList]

theorem scans_not (cs : List Char) :
    Scans params ('N' :: 'O' :: 'T' :: '(' :: cs) [.not] params ('(' :: cs) :=
  scans_word ['O', 'T'] (by decide) (by decide) (by decide) rfl

theorem scans_null (cs : List Char) :
    Scans params ('I' :: 'S' :: ' ' :: 'N' :: 'U' :: 'L' :: 'L' :: ')' :: cs) [.is, .null]
      params (')' :: cs) := by
  have his : Scans params ('I' :: 'S' :: ' ' :: 'N' :: 'U' :: 'L' :: 'L' :: ')' :: cs) [.is]
      params (' ' :: 'N' :: 'U' :: 'L' :: 'L' :: ')' :: cs) :=
    scans_word ['S'] (by decide) (by decide) (by decide) rfl
  have hnull : Scans params ('N' :: 'U' :: 'L' :: 'L' :: ')' :: cs) [.null]
      params (')' :: cs) :=
    scans_word ['U', 'L', 'L'] (by decide) (by decide) (by decide) rfl
  exact his.trans ((scans_space _).trans hnull)

theorem scans_operator (op : CompareOp) (cs : List Char) :
    Scans params (op.text.toList ++ ' ' :: cs) [.op op.text] params (' ' :: cs) := by
  cases op <;> exact scans_symbol (by decide) (by decide) rfl

/-- The symbol of a combinator. -/
def combinatorSymbol : Combinator → Symbol
  | .and => .and
  | .or => .or

theorem scans_combinator (combinator : Combinator) (cs : List Char) :
    Scans params (combinator.keyword.toList ++ ' ' :: cs) [combinatorSymbol combinator]
      params (' ' :: cs) := by
  cases combinator with
  | and => exact scans_word ['N', 'D'] (by decide) (by decide) (by decide) rfl
  | or => exact scans_word ['R'] (by decide) (by decide) (by decide) rfl

/-- The symbols before the parenthesis of a node. -/
def negationSymbols (negated : Bool) : List Symbol := if negated then [.not] else []

theorem scans_negation (negated : Bool) (cs : List Char) :
    Scans params ((Predicate.negation negated).toList ++ '(' :: cs)
      (negationSymbols negated ++ [.opening]) params cs := by
  cases negated with
  | false => exact scans_opening cs
  | true => exact (scans_not cs).trans (scans_opening cs)

end RequestSql.Sql

namespace RequestSql

/-! ### Predicates -/

namespace Predicate

open Sql (Symbol Condition)

/-- The symbols of the text of a predicate. -/
def symbols : Predicate → List Symbol
  | compare column op param negated =>
    Sql.negationSymbols negated ++
      [.opening, .column column, .op op.text, .value param, .closing]
  | isNull column negated =>
    Sql.negationSymbols negated ++ [.opening, .column column, .is, .null, .closing]
  | logical combinator negated left right =>
    Sql.negationSymbols negated ++ .opening ::
      (left.symbols ++ Sql.combinatorSymbol combinator :: (right.symbols ++ [.closing]))

/-- A condition with a `NOT` before it if `negated` is set. -/
def negatedCondition (negated : Bool) (c : Condition) : Condition :=
  if negated then .not c else c

/-- The condition that a predicate is. -/
def condition : Predicate → Condition
  | compare column op param negated => negatedCondition negated (.compare column op.text param)
  | isNull column negated => negatedCondition negated (.isNull column)
  | logical .and negated left right =>
    negatedCondition negated (.and left.condition right.condition)
  | logical .or negated left right =>
    negatedCondition negated (.or left.condition right.condition)

end Predicate

namespace Sql

/-- The text of a predicate is cut into its symbols, and uses its parameters up. -/
theorem scans_predicate {p : Predicate} (hp : p.Named) : ∀ (params : List Param)
    (cs : List Char), Scans (p.params ++ params) (p.text.toList ++ cs) p.symbols params cs := by
  induction p with
  | compare column op param negated =>
    intro params cs
    have hvalue : Scans (param :: params) (' ' :: '?' :: ')' :: cs) [.value param, .closing]
        params cs :=
      (scans_space _).trans ((scans_mark param _).trans (scans_closing cs))
    have hcompare := (scans_column hp _).trans ((scans_space _).trans
      ((scans_operator op ('?' :: ')' :: cs)).trans hvalue))
    have h := (scans_negation negated _).trans hcompare
    rw [Predicate.toList_text_compare]
    simpa [Predicate.symbols, Predicate.params] using h
  | isNull column negated =>
    intro params cs
    have hnull : Scans params (' ' :: 'I' :: 'S' :: ' ' :: 'N' :: 'U' :: 'L' :: 'L' :: ')' :: cs)
        [.is, .null, .closing] params cs :=
      (scans_space _).trans ((scans_null _).trans (scans_closing cs))
    have h := (scans_negation negated _).trans ((scans_column hp _).trans hnull)
    rw [Predicate.toList_text_isNull]
    simpa [Predicate.symbols, Predicate.params] using h
  | logical combinator negated left right ihl ihr =>
    intro params cs
    have hright := (ihr hp.2 params (')' :: cs)).trans (scans_closing cs)
    have hcombined := (scans_space _).trans ((scans_combinator combinator _).trans
      ((scans_space _).trans hright))
    have h := (scans_negation negated _).trans ((ihl hp.1 _ _).trans hcombined)
    rw [Predicate.toList_text_logical]
    simpa [Predicate.symbols, Predicate.params] using h

/-- A node is a whole in its parentheses, and the `NOT` before them negates just it. -/
theorem derives_node (negated : Bool) {ts : List Symbol} {c : Condition}
    (h : Derives .disjunction ts c) :
    Derives .negation (negationSymbols negated ++ .opening :: (ts ++ [.closing]))
      (Predicate.negatedCondition negated c) := by
  cases negated with
  | false => exact .primary (.group h)
  | true => exact .not (.primary (.group h))

theorem derives_leaf {ts : List Symbol} {c : Condition} (h : Derives .primary ts c) :
    Derives .disjunction ts c :=
  .conjunction (.negation (.primary h))

/-- The symbols of a predicate are its condition, wherever an operand of a connective may
stand. -/
theorem derives_predicate (p : Predicate) : Derives .negation p.symbols p.condition := by
  induction p with
  | compare column op param negated =>
    exact derives_node negated (derives_leaf (.compare column op.text param))
  | isNull column negated => exact derives_node negated (derives_leaf (.isNull column))
  | logical combinator negated left right ihl ihr =>
    have hnode : ∀ {s c}, Derives .disjunction (left.symbols ++ s :: right.symbols) c →
        Derives .negation (negationSymbols negated ++ .opening ::
          (left.symbols ++ s :: (right.symbols ++ [.closing])))
            (Predicate.negatedCondition negated c) := by
      intro s c h
      have := derives_node negated h
      rwa [List.append_assoc, List.cons_append] at this
    cases combinator with
    | and => exact hnode (.conjunction (.and (.negation ihl) ihr))
    | or => exact hnode (.or (.conjunction (.negation ihl)) (.negation ihr))

/-- The text of a predicate over identifiers reads as its condition, and only so. -/
theorem isReading_predicate {p : Predicate} (hp : p.Named) :
    IsReading p.text p.params p.condition := by
  have hscan := scans_predicate hp [] []
  rw [List.append_nil, List.append_nil] at hscan
  refine Reads.isReading ⟨p.symbols, ?_, .conjunction (.negation (derives_predicate p))⟩
  rw [hscan, symbols]
  simp

end Sql

end RequestSql
