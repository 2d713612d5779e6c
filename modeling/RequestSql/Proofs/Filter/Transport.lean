import RequestSql.Proofs.Filter.Encoding
import RequestSql.Proofs.Filter.Printing
import RequestSql.Proofs.Number.Range

/-!
# From text to JSON

A filter that has been read from a text may be passed on as a JSON value. This works for all that a
text can say but for a numeral that is too great: the lexer rounds it to infinity, of which JSON
knows nothing, so that `null` stands in its place and the filter is not read again.

The numbers of a filter are those of the tokens it was read from, in order, and the number of a
token is the nearest one to the numeral that stands in the text. So it can be seen from the
numerals of a text whether its filter can be passed on. Writing the value as text and reading it
again, which rounds numbers and limits the depth, is not considered here.

Key definitions: `Filter.numbers`, `PlainNumeral.InRange`, `PlainNumeral.StandsIn`.
Key theorems: `passedOn_numbers`, `Filter.ofNode?_toJson_of_not_isFinite`,
`passed_on_iff_in_range`.
-/

namespace RequestSql

/-! ### The numbers of a filter -/

namespace Filter

/-- The numbers that fields are compared with, from left to right. -/
def numbers : Filter → List Binary64
  | logical _ _ left right => left.numbers ++ right.numbers
  | text .. => []
  | number _ _ value _ => [value]
  | null .. => []
  | unsupported => []

theorem numbers_negate (f : Filter) : f.negate.numbers = f.numbers := by
  cases f <;> rfl

theorem isFinite_iff_numbers (f : Filter) :
    f.IsFinite ↔ ∀ x ∈ f.numbers, x.isFinite = true := by
  induction f with
  | logical combinator negated left right ihl ihr =>
    rw [IsFinite, numbers, ihl, ihr, List.forall_mem_append]
  | text => simp [IsFinite, numbers]
  | number => simp [IsFinite, numbers]
  | null => simp [IsFinite, numbers]
  | unsupported => simp [IsFinite, numbers]

end Filter

/-- The number of a token that is one. -/
def TokenKind.number? : TokenKind → Option Binary64
  | number value => some value
  | _ => none

/-- The numbers among some tokens. -/
def numbersOf (ts : List Token) : List Binary64 := ts.filterMap (·.kind.number?)

theorem numbersOf_append (ts us : List Token) :
    numbersOf (ts ++ us) = numbersOf ts ++ numbersOf us := List.filterMap_append

theorem numbersOf_cons_of_eq {t : Token} {kind : TokenKind} (ht : t.kind = kind)
    (hkind : kind.number? = none) (ts : List Token) : numbersOf (t :: ts) = numbersOf ts := by
  rw [numbersOf, List.filterMap_cons_none (by rw [ht, hkind])]
  rfl

/-- The number of a condition is its literal. -/
theorem ConditionRule.numbers_eq {path : FieldPath} {operator literal : TokenKind} {f : Filter}
    (h : ConditionRule path operator literal f) :
    operator.number? = none ∧ f.numbers = literal.number?.toList := by
  cases h <;> exact ⟨rfl, rfl⟩

/-- Every number of a filter is a token, and the other way around. -/
theorem passedOn_numbers : PassedOn (fun ts f _ => f.numbers = numbersOf ts)
    (fun ts f _ => f.numbers = numbersOf ts) (fun ts f _ => f.numbers = numbersOf ts) where
  condition := by
    intro name operator literal path f hname hrule
    obtain ⟨hoperator, hnumbers⟩ := hrule.numbers_eq
    rw [hnumbers, numbersOf_cons_of_eq hname rfl, numbersOf_cons_of_eq rfl hoperator]
    cases hliteral : literal.kind.number? <;> simp [numbersOf, hliteral]
  not := by
    intro t ts f n ht hf
    rw [f.numbers_negate, numbersOf_cons_of_eq ht rfl, hf]
  group := by
    intro opening closing ts f n hopening hf hclosing
    have hend : numbersOf [closing] = [] := numbersOf_cons_of_eq hclosing rfl []
    rw [numbersOf_cons_of_eq hopening rfl, numbersOf_append, hend, List.append_nil, hf]
  operand := id
  and := by
    intro ts us t f g n m hf ht hg
    rw [numbersOf_append, numbersOf_cons_of_eq ht rfl, ← hf, ← hg]
    rfl
  conjunction := id
  or := by
    intro ts us t f g n m hf ht hg
    rw [numbersOf_append, numbersOf_cons_of_eq ht rfl, ← hf, ← hg]
    rfl

/-! ### The numerals of a text -/

theorem Lexeme.keyword_ne_number (word : List Char) (x : Binary64) :
    keyword word ≠ .number x := by
  unfold keyword
  split <;> exact TokenKind.noConfusion

/-- A token that is a number is a numeral. -/
theorem IsToken.of_number {text rest : List Char} {x : Binary64}
    (h : IsToken text (.number x) rest) : ∃ n : PlainNumeral, text = n.text ∧ n.value = x := by
  generalize hkind : TokenKind.number x = kind at h
  cases h with
  | sign hsign =>
    subst hkind
    simp [signs] at hsign
  | pair hpair =>
    subst hkind
    simp [signPairs] at hpair
  | lone hlone =>
    subst hkind
    simp [loneSigns] at hlone
  | number n => exact ⟨n, rfl, (TokenKind.number.inj hkind).symm⟩
  | text => cases hkind
  | unclosed => cases hkind
  | path => exact absurd hkind.symm (Lexeme.keyword_ne_number _ x)
  | illegal => cases hkind

namespace PlainNumeral

/-- What the numeral says is less than `2 ^ 1024 - 2 ^ 970`. -/
def InRange (n : PlainNumeral) : Prop :=
  digitsValue (n.whole ++ n.places) < Binary64.overflow * Nat.pow 10 n.places.length

/-- The numeral is a token of the text, with what stands before it and behind it. -/
def StandsIn (n : PlainNumeral) (input : String) : Prop :=
  ∃ before after, input = before ++ (.ofList n.text ++ after) ∧
    ⟨.number n.value, ⟨before.utf8ByteSize, (before ++ .ofList n.text).utf8ByteSize⟩⟩ ∈ lex input

theorem isFinite_value_iff (n : PlainNumeral) : n.value.isFinite = true ↔ n.InRange :=
  Binary64.isFinite_ofRatio_iff _ _ (Nat.pow_pos (by decide))

end PlainNumeral

/-- The numbers among the tokens of a text are those of its numerals. -/
theorem mem_numbersOf_lex {input : String} {x : Binary64} :
    x ∈ numbersOf (lex input) ↔ ∃ n : PlainNumeral, n.StandsIn input ∧ n.value = x := by
  constructor
  · intro hx
    obtain ⟨t, ht, hnumber⟩ := List.mem_filterMap.1 hx
    have hkind : t.kind = .number x := by
      cases hkind : t.kind <;> rw [hkind] at hnumber <;> cases hnumber
      rfl
    obtain ⟨before, first, taken, after, -, htoken, hinput, hspan⟩ := exists_part_of_mem_lex ht
    rw [hkind] at htoken
    obtain ⟨n, htext, rfl⟩ := htoken.of_number
    rw [htext] at hinput hspan
    refine ⟨n, ⟨_, _, hinput, ?_⟩, rfl⟩
    rwa [← hspan, ← hkind]
  · rintro ⟨n, ⟨before, after, -, ht⟩, rfl⟩
    exact List.mem_filterMap.2 ⟨_, ht, rfl⟩

/-- The numbers of a filter are those of the numerals in its text. -/
theorem mem_numbers_iff {input : String} {f : Filter} (h : parseFilter input = .ok f)
    {x : Binary64} : x ∈ f.numbers ↔ ∃ n : PlainNumeral, n.StandsIn input ∧ n.value = x := by
  obtain ⟨depth, hderived, -⟩ := parseTokens_eq_ok.1 h
  rw [passedOn_numbers.disjunction_of hderived]
  exact mem_numbersOf_lex

theorem isFinite_iff_in_range {input : String} {f : Filter} (h : parseFilter input = .ok f) :
    f.IsFinite ↔ ∀ n : PlainNumeral, n.StandsIn input → n.InRange := by
  rw [f.isFinite_iff_numbers]
  constructor
  · intro hfinite n hn
    exact n.isFinite_value_iff.1 (hfinite _ ((mem_numbers_iff h).2 ⟨n, hn, rfl⟩))
  · intro hrange x hx
    obtain ⟨n, hn, rfl⟩ := (mem_numbers_iff h).1 hx
    exact n.isFinite_value_iff.2 (hrange n hn)

/-! ### Filters that cannot be passed on -/

/-- Infinity is written as `null`, which is no number. -/
theorem Json.binary64?_ofBinary64_of_not_isFinite {x : Binary64} (h : ¬x.isFinite = true) :
    (Json.ofBinary64 x).binary64? = none := by
  rw [Json.ofBinary64, if_neg h]
  rfl

/-- What is written of a filter with an infinite number is not read. -/
theorem Filter.ofNode?_toJson_of_not_isFinite {f : Filter} (h : ¬f.IsFinite) (nested : Bool) :
    Filter.ofNode? nested f.toJson = none := by
  induction f generalizing nested with
  | logical combinator negated left right ihl ihr =>
    have hform : NodeForm "logical" [("combinator", .text (combinatorName combinator)),
        ("negated", .bool negated), ("left", left.toJson), ("right", right.toJson)]
        (logical combinator negated left right).toJson := .written _ _
    obtain ⟨members, hnode, hgives⟩ := exists_node?_of_form .logical hform nested rfl rfl
    have hleft : members.lookup "left" = some left.toJson := hgives.field (by simp) (by decide)
    have hright : members.lookup "right" = some right.toJson := hgives.field (by simp) (by decide)
    refine (ofNode?_eq hnode).trans ?_
    rw [ofMembers?, hleft, hright]
    by_cases hfinite : left.IsFinite
    · have hother : Filter.ofNode? true right.toJson = none :=
        ihr (fun hr => h ⟨hfinite, hr⟩) true
      simp [hother]
    · simp [ihl hfinite true]
  | number path op value negated =>
    have hform : NodeForm "number" [("field_path", path.toJson), ("op", .text (numberOpName op)),
        ("value", .ofBinary64 value), ("negated", .bool negated)]
        (number path op value negated).toJson := .written _ _
    obtain ⟨members, hnode, hgives⟩ := exists_node?_of_form .number hform nested rfl rfl
    have hvalue : members.lookup "value" = some (.ofBinary64 value) :=
      hgives.field (by simp) (by decide)
    refine (ofNode?_eq hnode).trans ?_
    simp [ofMembers?, Json.required, hvalue, Json.binary64?_ofBinary64_of_not_isFinite h]
  | text => exact absurd trivial h
  | null => exact absurd trivial h
  | unsupported => exact absurd trivial h

/-! ### The main result -/

/-- **The JSON value of a filter that was read is the filter again exactly when the numerals of its
text are in range.** The filter is finite if and only if every numeral of the text says less than
`2 ^ 1024 - 2 ^ 970`; then its JSON value is read back as the filter, and else it is refused. The
finite numbers of a JSON value are exact: that a text of JSON is read with rounding and to a limited
depth is no part of this. -/
theorem passed_on_iff_in_range (input : String) (f : Filter) (h : parseFilter input = .ok f) :
    (f.IsFinite ↔ ∀ n : PlainNumeral, n.StandsIn input → n.InRange) ∧
    (Filter.ofJson? f.toJson = some f ↔ f.IsFinite) ∧
    (¬f.IsFinite → Filter.ofJson? f.toJson = none) := by
  have hrefused (hf : ¬f.IsFinite) : Filter.ofJson? f.toJson = none :=
    Filter.ofNode?_toJson_of_not_isFinite hf false
  refine ⟨isFinite_iff_in_range h, ⟨fun hread => ?_, fun hf => ?_⟩, hrefused⟩
  · by_contra hf
    rw [hrefused hf] at hread
    cases hread
  · exact f.form_toJson.ofNode? hf false

/-- A natural as a numeral. -/
def PlainNumeral.ofNat (n : Nat) : PlainNumeral where
  negative := false
  whole := Nat.toDigits 10 n
  places := []
  whole_ne_nil := Nat.toDigits_ne_nil
  isDigit := by
    intro c hc
    rw [List.append_nil] at hc
    exact Nat.isDigit_of_mem_toDigits (by decide) (by decide) hc

theorem PlainNumeral.inRange_ofNat_iff (n : Nat) : (ofNat n).InRange ↔ n < Binary64.overflow := by
  rw [InRange, ofNat, List.append_nil, digitsValue_toDigits]
  show n < Binary64.overflow * 1 ↔ n < Binary64.overflow
  rw [Nat.mul_one]

/-- The text that compares a field with a numeral. -/
def PlainNumeral.comparison (n : PlainNumeral) : String :=
  "a" ++ " " ++ "==" ++ " " ++ String.ofList n.text

theorem PlainNumeral.parseFilter_comparison (n : PlainNumeral) :
    parseFilter n.comparison = .ok (.number ⟨["a"]⟩ .eq n.value false) := by
  have hpath : FieldPath.Printable ⟨["a"]⟩ := by decide +kernel
  have heq : Spells "==" [.eq] := spells_pair rfl (by decide) (by decide)
  have hsays : SaysAs Operand n.comparison (.number ⟨["a"]⟩ .eq n.value false) 0 :=
    says_condition hpath heq n.spells (.eqNumber n.value)
  exact hsays.one.one.parseFilter_eq_ok (Nat.zero_le _)

/-- The greatest natural that is in range is passed on. -/
theorem passed_on_of_greatest :
    let n := PlainNumeral.ofNat (Binary64.overflow - 1)
    let f : Filter := .number ⟨["a"]⟩ .eq n.value false
    parseFilter n.comparison = .ok f ∧ Filter.ofJson? f.toJson = some f := by
  intro n f
  have hread : parseFilter n.comparison = .ok f := n.parseFilter_comparison
  have hrange : n.InRange := (PlainNumeral.inRange_ofNat_iff _).2 (by decide +kernel)
  have hfinite : f.IsFinite := n.isFinite_value_iff.2 hrange
  obtain ⟨-, hback, -⟩ := passed_on_iff_in_range n.comparison f hread
  exact ⟨hread, hback.2 hfinite⟩

/-- A one and 309 zeros are read as infinity, which is not passed on. -/
theorem not_passed_on_of_overflow :
    let n := PlainNumeral.ofNat (Nat.pow 10 309)
    let f : Filter := .number ⟨["a"]⟩ .eq n.value false
    n.text = '1' :: List.replicate 309 '0' ∧ parseFilter n.comparison = .ok f ∧ ¬f.IsFinite ∧
      Filter.ofJson? f.toJson = none := by
  intro n f
  have htext : n.text = '1' :: List.replicate 309 '0' := by decide +kernel
  have hrange : ¬n.InRange := mt (PlainNumeral.inRange_ofNat_iff _).1 (by decide +kernel)
  have hinfinite : ¬f.IsFinite := mt n.isFinite_value_iff.1 hrange
  exact ⟨htext, n.parseFilter_comparison, hinfinite,
    Filter.ofNode?_toJson_of_not_isFinite hinfinite false⟩

end RequestSql
