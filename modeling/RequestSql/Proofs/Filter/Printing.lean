import RequestSql.Proofs.Filter.Grammar
import RequestSql.Proofs.Filter.Path
import RequestSql.Proofs.Filter.Spans
import RequestSql.Proofs.Number.ReadBack

/-!
# Filters written and read again

A filter is written as text: a leaf is a path, an operator and a literal with blanks between
them, a logical node stands in parentheses, and `not` stands in front of what is negated.
What is written is read again as the same filter, whatever its texts hold, as long as no
token of it is nested too deeply.

The written form is followed through the lexer and the parser at once. A text `Spells` some
kinds of tokens if these are what the lexer finds in it, wherever the text stands, when a
blank, a closing parenthesis or nothing follows; so the tokens of two neighbours cannot grow
together. And it `Says` a filter if the tokens it spells are an operand with this tree. Both
are passed on from the parts of a filter to the whole.

Key definitions: `Filter.print`, `Filter.nesting`, `Filter.Printable`, `Spells`, `Says`,
`SaysAs`.
Key theorems: `spells_quoted`, `spells_number`, `says_print`, `parseFilter_print`.
-/

namespace RequestSql

/-! ### The written form -/

/-- The quotes that a text may stand between. -/
inductive QuoteMark where
  | single
  | double
deriving DecidableEq, Repr

def QuoteMark.char : QuoteMark → Char
  | single => '\''
  | double => '"'

/-- A content with a backslash in front of every quote and every backslash in it. -/
def QuoteMark.escaped (mark : QuoteMark) (content : List Char) : List Char :=
  content.flatMap fun c => if c = mark.char ∨ c = '\\' then ['\\', c] else [c]

/-- A text between quotes. -/
def QuoteMark.quoted (mark : QuoteMark) (content : String) : String :=
  String.ofList (mark.char :: (mark.escaped content.toList ++ [mark.char]))

def TextOp.print : TextOp → String
  | eq => "=="
  | matching => "~"

def NumberOp.print : NumberOp → String
  | eq => "=="
  | gt => ">"
  | ge => ">="
  | lt => "<"
  | le => "<="

def Combinator.print : Combinator → String
  | and => "and"
  | or => "or"

/-- A text with `not` in front of it if it is negated. -/
def negatedText (negated : Bool) (text : String) : String :=
  if negated then "not" ++ " " ++ text else text

namespace Filter

/-- The written form of a filter. Each of its texts may stand between other quotes. -/
def print (marks : String → QuoteMark) : Filter → String
  | logical combinator negated left right =>
    negatedText negated ("(" ++ (left.print marks ++ " " ++ combinator.print ++ " " ++
      right.print marks) ++ ")")
  | text path op value negated =>
    negatedText negated (path.toDotted ++ " " ++ op.print ++ " " ++ (marks value).quoted value)
  | number path op value negated =>
    negatedText negated (path.toDotted ++ " " ++ op.print ++ " " ++
      NumberLayout.literal.write value)
  | null path negated => negatedText negated (path.toDotted ++ " " ++ "==" ++ " " ++ "null")
  | unsupported => ""

/-- How many groups and operands of `not` enclose the deepest token of the written form. -/
def nesting : Filter → Nat
  | logical _ negated left right => max left.nesting right.nesting + 1 + negated.toNat
  | text _ _ _ negated => negated.toNat
  | number _ _ _ negated => negated.toNat
  | null _ negated => negated.toNat
  | unsupported => 0

end Filter

/-- The words that are no paths. -/
def keywords : List String :=
  ["and", "or", "not", "null", "eq", "ne", "match", "nomatch", "gt", "ge", "lt", "le"]

/-- A path that can be written: it has segments and these have no dots, and with dots between
them they look like a path and like no keyword. -/
structure FieldPath.Printable (path : FieldPath) : Prop where
  segments_ne_nil : path.segments ≠ []
  dot_not_mem : ∀ segment ∈ path.segments, '.' ∉ segment.toList
  begins : ∃ c ∈ path.toDotted.toList.head?, Text.isLetter c = true ∨ c = '_'
  consists : ∀ c ∈ path.toDotted.toList, Text.isWordChar c = true ∨ c = '.'
  not_keyword : String.ofList (path.toDotted.toList.map Char.toLower) ∉ keywords

/-- Whether a path can be written is found out by looking at its characters. -/
theorem FieldPath.printable_iff (path : FieldPath) :
    path.Printable ↔ path.segments ≠ [] ∧ (∀ segment ∈ path.segments, '.' ∉ segment.toList) ∧
      path.toDotted.toList.head?.any (fun c => Text.isLetter c || c == '_') = true ∧
      path.toDotted.toList.all (fun c => Text.isWordChar c || c == '.') = true ∧
      String.ofList (path.toDotted.toList.map Char.toLower) ∉ keywords := by
  simp only [Option.any_eq_true, List.all_eq_true, Bool.or_eq_true, beq_iff_eq]
  constructor
  · rintro ⟨hsegments, hdot, hbegins, hconsists, hkeyword⟩
    exact ⟨hsegments, hdot, hbegins, hconsists, hkeyword⟩
  · rintro ⟨hsegments, hdot, hbegins, hconsists, hkeyword⟩
    exact ⟨hsegments, hdot, hbegins, hconsists, hkeyword⟩

instance (path : FieldPath) : Decidable path.Printable :=
  decidable_of_iff' _ path.printable_iff

/-- A filter that can be written: every node is supported, every path can be written and
every number is finite. -/
def Filter.Printable : Filter → Prop
  | logical _ _ left right => left.Printable ∧ right.Printable
  | text path _ _ _ => path.Printable
  | number path _ value _ => path.Printable ∧ value.isFinite = true
  | null path _ => path.Printable
  | unsupported => False

/-! ### What is written of a path is the path -/

theorem FieldPath.Printable.ofDotted_toDotted {path : FieldPath} (h : path.Printable) :
    FieldPath.ofDotted path.toDotted = path :=
  Recoverable.ofDotted_toDotted ⟨h.segments_ne_nil, h.dot_not_mem⟩

/-! ### Tokens that keep apart -/

/-- What may follow the tokens of a filter: a blank, a closing parenthesis or nothing. -/
def Stops (rest : List Char) : Prop := ∀ c ∈ rest.head?, c = ' ' ∨ c = ')'

theorem Stops.notAhead {p : Char → Bool} {rest : List Char} (h : Stops rest)
    (hblank : p ' ' = false) (hclosing : p ')' = false) : Text.NotAhead p rest := by
  intro c hc
  rcases h c hc with rfl | rfl
  · exact hblank
  · exact hclosing

/-- The kinds of the tokens of a text. -/
def kindsOf (cs : List Char) : List TokenKind := (lexFrom 0 cs).map Token.kind

/-- The text is read as tokens of these kinds, whatever may follow. -/
def Spells (text : String) (kinds : List TokenKind) : Prop :=
  ∀ rest, Stops rest → kindsOf (text.toList ++ rest) = kinds ++ kindsOf rest

/-- The kinds of the tokens do not depend on where the text begins. -/
theorem map_kind_lexFrom (start : Nat) (cs : List Char) :
    (lexFrom start cs).map Token.kind = kindsOf cs := by
  rw [kindsOf]
  generalize 0 = origin
  fun_induction lexFrom start cs generalizing origin with
  | case1 => rw [lexFrom_nil]
  | case2 start c cs hblank ih => rw [ih (origin + c.utf8Size), lexFrom_cons origin, if_pos hblank]
  | case3 start c cs hblank lexeme stop ih =>
    rw [List.map_cons, ih (origin + utf8Length (c :: lexeme.taken)), lexFrom_cons origin,
      if_neg hblank]
    rfl

theorem kindsOf_nil : kindsOf [] = [] := by
  rw [kindsOf, lexFrom_nil]
  rfl

theorem kindsOf_blank (cs : List Char) : kindsOf (' ' :: cs) = kindsOf cs := by
  rw [kindsOf, lexFrom_cons]
  exact map_kind_lexFrom _ cs

/-- A token in front of the rest. -/
theorem IsToken.kindsOf_eq {first : Char} {taken rest : List Char} {kind : TokenKind}
    (hblank : Text.isBlank first = false) (h : IsToken (first :: taken) kind rest) :
    kindsOf (first :: (taken ++ rest)) = kind :: kindsOf rest := by
  have hlexed := Lexed.token hblank h rfl (lexed_lexFrom (0 + utf8Length (first :: taken)) rest)
  rw [kindsOf, lexFrom_eq_iff.2 hlexed, List.map_cons, map_kind_lexFrom]

theorem spells_token {text : String} {first : Char} {taken : List Char} {kind : TokenKind}
    (htext : text.toList = first :: taken) (hblank : Text.isBlank first = false)
    (h : ∀ rest, Stops rest → IsToken (first :: taken) kind rest) : Spells text [kind] := by
  intro rest hrest
  rw [htext]
  exact (h rest hrest).kindsOf_eq hblank

/-- Two texts with a blank between them. -/
theorem Spells.blank {a b : String} {as bs : List TokenKind} (ha : Spells a as) (hb : Spells b bs) :
    Spells (a ++ " " ++ b) (as ++ bs) := by
  intro rest hrest
  have hstops : Stops (' ' :: (b.toList ++ rest)) := fun c hc => .inl (Option.some.inj hc).symm
  have htext : (a ++ " " ++ b).toList ++ rest = a.toList ++ ' ' :: (b.toList ++ rest) := by simp
  rw [htext, ha _ hstops, kindsOf_blank, hb rest hrest, List.append_assoc]

/-- A text between parentheses. -/
theorem Spells.group {a : String} {as : List TokenKind} (ha : Spells a as) :
    Spells ("(" ++ a ++ ")") (.lparen :: (as ++ [.rparen])) := by
  intro rest hrest
  have hstops : Stops (')' :: rest) := fun c hc => .inr (Option.some.inj hc).symm
  have hopening : IsToken ['('] .lparen (a.toList ++ ')' :: rest) := .sign (by decide)
  have hclosing : IsToken [')'] .rparen rest := .sign (by decide)
  have htext : ("(" ++ a ++ ")").toList ++ rest =
      '(' :: ([] ++ (a.toList ++ ')' :: rest)) := by simp
  have hend : kindsOf (')' :: rest) = .rparen :: kindsOf rest := hclosing.kindsOf_eq (by decide)
  rw [htext, hopening.kindsOf_eq (by decide), ha _ hstops, hend]
  simp

/-! ### Single tokens -/

/-- A sign of two characters is one token whatever follows. -/
theorem spells_pair {text : String} {c d : Char} {kind : TokenKind} (htext : text.toList = [c, d])
    (hblank : Text.isBlank c = false) (hpair : ((c, d), kind) ∈ signPairs) : Spells text [kind] :=
  spells_token htext hblank fun _ _ => .pair hpair

/-- A sign that could be the first one of a pair is alone, since no second one follows. -/
theorem spells_lone {text : String} {c : Char} {kind : TokenKind} (htext : text.toList = [c])
    (hblank : Text.isBlank c = false) (hlone : (c, kind) ∈ loneSigns)
    (hother : (c, ' ') ∉ signPairs.map Prod.fst ∧ (c, ')') ∉ signPairs.map Prod.fst) :
    Spells text [kind] := by
  refine spells_token htext hblank fun rest hrest => .lone hlone fun d hd => ?_
  rcases hrest d hd with rfl | rfl
  · exact hother.1
  · exact hother.2

/-- Whether a text has the characters of a keyword or a path. -/
def isWord : List Char → Bool
  | [] => false
  | first :: others => Lexeme.startsPath first && others.all Lexeme.continuesPath

/-- A word is the keyword or the path that it is. -/
theorem spells_word {text : String} {kind : TokenKind} (hword : isWord text.toList = true)
    (hkind : Lexeme.keyword text.toList = kind) : Spells text [kind] := by
  subst hkind
  cases htext : text.toList with
  | nil =>
    rw [htext] at hword
    cases hword
  | cons first others =>
    rw [htext, isWord, Bool.and_eq_true] at hword
    have hblank : Text.isBlank first = false := Text.isBlank_of_sort (by decide +kernel) hword.1
    exact spells_token htext hblank fun _ hrest =>
      .path hword.1 (List.all_eq_true.1 hword.2) (hrest.notAhead (by decide) (by decide))

/-- What is no keyword is a path. -/
theorem Lexeme.keyword_eq_identifier {word : List Char}
    (h : String.ofList (word.map Char.toLower) ∉ keywords) :
    keyword word = .identifier (String.ofList word) := by
  simp only [keywords, List.mem_cons, List.not_mem_nil, or_false, not_or] at h
  unfold keyword
  split <;> simp_all

theorem FieldPath.Printable.isWord {path : FieldPath} (h : path.Printable) :
    isWord path.toDotted.toList = true := by
  obtain ⟨first, hfirst, hbegins⟩ := h.begins
  obtain ⟨others, htext⟩ : ∃ others, path.toDotted.toList = first :: others :=
    List.head?_eq_some_iff.1 hfirst
  have hstarts : Lexeme.startsPath first = true := by
    rw [Lexeme.startsPath, Bool.or_eq_true, beq_iff_eq]
    exact hbegins
  have hothers : ∀ c ∈ others, Lexeme.continuesPath c = true := by
    intro c hc
    rw [Lexeme.continuesPath, Bool.or_eq_true, beq_iff_eq]
    exact h.consists c (htext ▸ List.mem_cons_of_mem first hc)
  rw [htext, RequestSql.isWord, hstarts, List.all_eq_true.2 hothers]
  rfl

theorem FieldPath.Printable.spells {path : FieldPath} (h : path.Printable) :
    Spells path.toDotted [.identifier path.toDotted] := by
  have hkind := Lexeme.keyword_eq_identifier h.not_keyword
  rw [String.ofList_toList] at hkind
  exact spells_word h.isWord hkind

/-- A content is read back from its escaped form. -/
theorem QuoteMark.quoted_escaped (mark : QuoteMark) (content : List Char) :
    Quoted mark.char content (mark.escaped content) := by
  induction content with
  | nil => exact .nil
  | cons c content ih =>
    rw [escaped, List.flatMap_cons]
    by_cases hc : c = mark.char ∨ c = '\\'
    · rw [if_pos hc]
      exact .escaped ih
    · rw [if_neg hc]
      rw [not_or] at hc
      exact .plain hc.1 hc.2 ih

theorem QuoteMark.char_mem (mark : QuoteMark) : mark.char ∈ quoteMarks := by
  cases mark <;> decide

theorem isBlank_of_quote {quote : Char} (h : quote ∈ quoteMarks) : Text.isBlank quote = false := by
  simp only [quoteMarks, List.mem_cons, List.not_mem_nil, or_false] at h
  rcases h with rfl | rfl <;> decide

theorem spells_quoted (mark : QuoteMark) (content : String) :
    Spells (mark.quoted content) [.text content] := by
  refine spells_token String.toList_ofList (isBlank_of_quote mark.char_mem) fun rest _ => ?_
  have htoken : IsToken (mark.char :: (mark.escaped content.toList ++ [mark.char]))
      (.text (String.ofList content.toList)) rest := .text mark.char_mem (mark.quoted_escaped _)
  rwa [String.ofList_toList] at htoken

/-- A numeral ends where a blank or a parenthesis follows. -/
theorem PlainNumeral.ends_of_stops (n : PlainNumeral) {rest : List Char} (h : Stops rest) :
    n.Ends rest := by
  refine ⟨h.notAhead (by decide) (by decide), ?_⟩
  rintro - digits rfl
  rcases h '.' rfl with hpoint | hpoint <;> exact absurd hpoint (by decide)

/-- A numeral begins with a minus sign or a digit. -/
theorem PlainNumeral.exists_first (n : PlainNumeral) : ∃ first taken, n.text = first :: taken ∧
    (first.isDigit || first == '-') = true := by
  obtain ⟨negative, whole, places, hne, hdigits⟩ := n
  cases negative with
  | true => exact ⟨'-', whole ++ pointed places, rfl, rfl⟩
  | false =>
    obtain ⟨d, digits, rfl⟩ := List.exists_cons_of_ne_nil hne
    have hd : d.isDigit = true := hdigits d (List.mem_append_left _ (List.mem_cons_self ..))
    exact ⟨d, digits ++ pointed places, rfl, by rw [hd]; rfl⟩

/-- A numeral is a number wherever a filter has one. -/
theorem PlainNumeral.spells (n : PlainNumeral) :
    Spells (String.ofList n.text) [.number n.value] := by
  obtain ⟨first, taken, htext, hfirst⟩ := n.exists_first
  have hblank : Text.isBlank first = false :=
    Text.isBlank_of_sort (p := fun c => c.isDigit || c == '-') (by decide) hfirst
  refine spells_token (String.toList_ofList.trans htext) hblank fun rest hrest => ?_
  rw [← htext]
  exact .number n (n.ends_of_stops hrest)

theorem spells_number {x : Binary64} (h : x.isFinite = true) :
    Spells (NumberLayout.literal.write x) [.number x] := by
  obtain ⟨n, hwrite, rfl⟩ := exists_plainNumeral h
  rw [hwrite]
  exact n.spells

/-! ### Operators -/

/-- The operator of a test of texts is read as what it is. -/
theorem TextOp.exists_token (op : TextOp) : ∃ operator, Spells op.print [operator] ∧
    ∀ path value, ConditionRule path operator (.text value) (.text path op value false) := by
  cases op with
  | eq => exact ⟨.eq, spells_pair rfl (by decide) (by decide), fun _ => .eqText⟩
  | matching =>
    have htilde : Spells "~" [.matching] :=
      spells_token rfl (by decide) fun _ _ => .sign (by decide)
    exact ⟨.matching, htilde, fun _ => .matching⟩

/-- A comparison of numbers is read as what it is. -/
theorem NumberOp.exists_token (op : NumberOp) : ∃ operator, Spells op.print [operator] ∧
    ∀ path value, ConditionRule path operator (.number value) (.number path op value false) := by
  cases op with
  | eq => exact ⟨.eq, spells_pair rfl (by decide) (by decide), fun _ => .eqNumber⟩
  | gt => exact ⟨.gt, spells_lone rfl (by decide) (by decide) (by decide), fun _ => .gt⟩
  | ge => exact ⟨.ge, spells_pair rfl (by decide) (by decide), fun _ => .ge⟩
  | lt => exact ⟨.lt, spells_lone rfl (by decide) (by decide) (by decide), fun _ => .lt⟩
  | le => exact ⟨.le, spells_pair rfl (by decide) (by decide), fun _ => .le⟩

/-! ### Conditions and negations -/

/-- The text is read as an operand with this tree, with tokens at most so deep. -/
def Says (text : String) (f : Filter) (depth : Nat) : Prop :=
  ∃ kinds, Spells text kinds ∧ ∀ ts : List Token, ts.map Token.kind = kinds → Operand ts f depth

theorem Says.not {text : String} {f : Filter} {n : Nat} (h : Says text f n) :
    Says ("not" ++ " " ++ text) f.negate (n + 1) := by
  obtain ⟨kinds, hspells, hoperand⟩ := h
  have hnot : Spells "not" [.not] := spells_word (by decide) (by decide)
  refine ⟨[.not] ++ kinds, hnot.blank hspells, fun ts hts => ?_⟩
  obtain ⟨t, us, rfl, ht, hus⟩ := List.map_eq_cons_iff.1 hts
  exact .not ht (hoperand us hus)

/-- What is negated is one level deeper. -/
theorem Says.negatedText {text : String} {f g : Filter} {n : Nat} (h : Says text f n)
    {negated : Bool} (hg : (if negated then f.negate else f) = g) :
    Says (negatedText negated text) g (n + negated.toNat) := by
  subst hg
  cases negated with
  | true => exact h.not
  | false => exact h

theorem says_condition {path : FieldPath} (hpath : path.Printable) {operator literal : TokenKind}
    {operatorText literalText : String} (hoperator : Spells operatorText [operator])
    (hliteral : Spells literalText [literal]) {f : Filter}
    (hrule : ConditionRule path operator literal f) :
    Says (path.toDotted ++ " " ++ operatorText ++ " " ++ literalText) f 0 := by
  refine ⟨_, (hpath.spells.blank hoperator).blank hliteral, fun ts hts => ?_⟩
  obtain ⟨name, us, rfl, hname, hus⟩ := List.map_eq_cons_iff.1 hts
  obtain ⟨t, vs, rfl, ht, hvs⟩ := List.map_eq_cons_iff.1 hus
  obtain ⟨u, ws, rfl, hu, hws⟩ := List.map_eq_cons_iff.1 hvs
  obtain rfl := List.map_eq_nil_iff.1 hws
  refine .condition hname ?_
  rw [ht, hu, hpath.ofDotted_toDotted]
  exact hrule

/-! ### Chains and groups -/

/-- The text is read as tokens of which this is derived; `Says` is the case of operands. -/
def SaysAs (Rule : List Token → Filter → Nat → Prop) (text : String) (f : Filter) (depth : Nat) :
    Prop :=
  ∃ kinds, Spells text kinds ∧ ∀ ts : List Token, ts.map Token.kind = kinds → Rule ts f depth

section SaysAs

variable {Item : List Token → Filter → Nat → Prop} {separator : TokenKind}
  {join : Filter → Filter → Filter} {a b word : String} {f g : Filter} {n m : Nat}

theorem SaysAs.one (h : SaysAs Item a f n) : SaysAs (Chained separator join Item) a f n := by
  obtain ⟨kinds, hspells, hitem⟩ := h
  exact ⟨kinds, hspells, fun ts hts => .one (hitem ts hts)⟩

/-- A chain goes on with a separator and an item, with blanks between them. -/
theorem SaysAs.more (ha : SaysAs (Chained separator join Item) a f n)
    (hword : Spells word [separator]) (hb : SaysAs Item b g m) :
    SaysAs (Chained separator join Item) (a ++ " " ++ word ++ " " ++ b) (join f g) (max n m) := by
  obtain ⟨as, hspellsa, hchain⟩ := ha
  obtain ⟨bs, hspellsb, hitem⟩ := hb
  refine ⟨_, (hspellsa.blank hword).blank hspellsb, fun ts hts => ?_⟩
  obtain ⟨ls, rs, rfl, hls, hrs⟩ := List.map_eq_append_iff.1 hts
  obtain ⟨ls, us, rfl, has, hus⟩ := List.map_eq_append_iff.1 hls
  obtain ⟨t, vs, rfl, ht, hvs⟩ := List.map_eq_cons_iff.1 hus
  obtain rfl := List.map_eq_nil_iff.1 hvs
  rw [List.append_assoc, List.singleton_append]
  exact .more (hchain ls has) ht (hitem rs hrs)

theorem SaysAs.group (h : SaysAs Disjunction a f n) :
    SaysAs Operand ("(" ++ a ++ ")") f (n + 1) := by
  obtain ⟨kinds, hspells, hchain⟩ := h
  refine ⟨_, hspells.group, fun ts hts => ?_⟩
  obtain ⟨opening, us, rfl, hopening, hus⟩ := List.map_eq_cons_iff.1 hts
  obtain ⟨vs, ws, rfl, hvs, hws⟩ := List.map_eq_append_iff.1 hus
  obtain ⟨closing, xs, rfl, hclosing, hxs⟩ := List.map_eq_cons_iff.1 hws
  obtain rfl := List.map_eq_nil_iff.1 hxs
  exact .group hopening (hchain vs hvs) hclosing

/-- What is said by a whole text is read. -/
theorem SaysAs.parseFilter_eq_ok (h : SaysAs Disjunction a f n) (hn : n ≤ maxDepth) :
    parseFilter a = .ok f := by
  obtain ⟨kinds, hspells, hchain⟩ := h
  have hkinds : (lex a).map Token.kind = kinds := by
    have hread := hspells [] (fun c hc => by cases hc)
    rwa [List.append_nil, kindsOf_nil, List.append_nil] at hread
  exact parseTokens_eq_ok.2 ⟨n, hchain _ hkinds, hn⟩

end SaysAs

theorem spells_and : Spells "and" [.and] := spells_word (by decide) (by decide)

theorem spells_or : Spells "or" [.or] := spells_word (by decide) (by decide)

/-- Two operands and the word between them, in parentheses. -/
theorem says_group {left right : String} {f g : Filter} {n m : Nat} (hleft : Says left f n)
    (hright : Says right g m) (combinator : Combinator) :
    Says ("(" ++ (left ++ " " ++ combinator.print ++ " " ++ right) ++ ")")
      (.logical combinator false f g) (max n m + 1) := by
  have hleft : SaysAs Operand left f n := hleft
  cases combinator with
  | and => exact (hleft.one.more spells_and hright).one.group
  | or => exact (hleft.one.one.more spells_or (SaysAs.one hright)).group

/-! ### Filters -/

/-- **A filter that can be written says itself**, as deep as its tree is nested. -/
theorem says_print (marks : String → QuoteMark) {f : Filter} (h : f.Printable) :
    Says (f.print marks) f f.nesting := by
  induction f with
  | logical combinator negated left right ihleft ihright =>
    refine (says_group (ihleft h.1) (ihright h.2) combinator).negatedText ?_
    cases negated <;> rfl
  | text path op value negated =>
    obtain ⟨operator, hoperator, hrule⟩ := op.exists_token
    have hleaf := says_condition h hoperator (spells_quoted (marks value) value) (hrule path value)
    rw [Filter.nesting, ← Nat.zero_add negated.toNat]
    refine hleaf.negatedText ?_
    cases negated <;> rfl
  | number path op value negated =>
    obtain ⟨operator, hoperator, hrule⟩ := op.exists_token
    have hleaf := says_condition h.1 hoperator (spells_number h.2) (hrule path value)
    rw [Filter.nesting, ← Nat.zero_add negated.toNat]
    refine hleaf.negatedText ?_
    cases negated <;> rfl
  | null path negated =>
    have heq : Spells "==" [.eq] := spells_pair rfl (by decide) (by decide)
    have hnull : Spells "null" [.null] := spells_word (by decide) (by decide)
    rw [Filter.nesting, ← Nat.zero_add negated.toNat]
    refine (says_condition h heq hnull .eqNull).negatedText ?_
    cases negated <;> rfl
  | unsupported => exact absurd h id

/-- **Every filter tree is expressible, and its text is read as the tree it was written
from**, as long as no token of it is inside more than `maxDepth` groups and operands of
`not`. The texts in it may hold anything, and each of them may stand between either quotes. -/
theorem parseFilter_print (marks : String → QuoteMark) (f : Filter) (h : f.Printable)
    (hnesting : f.nesting ≤ maxDepth) : parseFilter (f.print marks) = .ok f := by
  obtain ⟨kinds, hspells, hoperand⟩ := says_print marks h
  have hkinds : (lex (f.print marks)).map Token.kind = kinds := by
    have hread := hspells [] (fun c hc => by cases hc)
    rwa [List.append_nil, kindsOf_nil, List.append_nil] at hread
  rw [parseFilter, parseTokens_eq_ok]
  exact ⟨f.nesting, .one (.one (hoperand _ hkinds)), hnesting⟩

/-- A text with both quotes and a backslash in it, a negated comparison and a negated group. -/
theorem parseFilter_print_nested :
    let f : Filter := .logical .or true
      (.text ⟨["authors", "größe"]⟩ .matching "it's \"not\" a \\ null" false)
      (.logical .and false (.number ⟨["_n1"]⟩ .ge (.ofRatio true 1 8) true) (.null ⟨["x"]⟩ false))
    f.print (fun _ => .single) =
      "not (authors.größe ~ 'it\\'s \"not\" a \\\\ null' or (not _n1 >= -0.125 and x == null))" ∧
    parseFilter (f.print fun _ => .single) = .ok f := by
  intro f
  have hauthors : FieldPath.Printable ⟨["authors", "größe"]⟩ := by decide +kernel
  have hnumber : FieldPath.Printable ⟨["_n1"]⟩ := by decide +kernel
  have hnull : FieldPath.Printable ⟨["x"]⟩ := by decide +kernel
  have hf : f.Printable := ⟨hauthors, ⟨hnumber, by decide +kernel⟩, hnull⟩
  exact ⟨by decide +kernel, parseFilter_print _ f hf (by decide)⟩

end RequestSql
