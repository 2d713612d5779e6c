import RequestSql.Proofs.Filter.Lexeme
import RequestSql.Proofs.Text.Bytes

/-!
# Where the tokens stand

The tokens of a text, as rules: nothing has none, a blank is passed over, and a token stands
in front of the tokens of the rest. What is between two tokens is therefore blank, and the
offset at which the rest begins is the one at which the token ends.

The rules say the same as the lexer (`lexFrom_eq_iff`), and all facts about the spans are
inductions on them: the tokens follow each other without sharing a byte, each span is cut out
of the text at boundaries of characters, and what it cuts out is the token again when it is
read alone.

Key definitions: `Lexed`, `Span.Within`.
Key theorems: `lexFrom_eq_iff`, `Lexed.exists_part`, `Lexed.covered`, `within_of_mem_lex`,
`lex_lossless`.
-/

namespace RequestSql

/-- The tokens of a text that begins some bytes into the whole. -/
inductive Lexed : Nat → List Char → List Token → Prop
  | nil {start : Nat} : Lexed start [] []
  | blank {start : Nat} {c : Char} {cs : List Char} {ts : List Token} :
      Text.isBlank c = true → Lexed (start + c.utf8Size) cs ts → Lexed start (c :: cs) ts
  | token {start stop : Nat} {first : Char} {taken rest : List Char} {kind : TokenKind}
      {ts : List Token} : Text.isBlank first = false → IsToken (first :: taken) kind rest →
        stop = start + utf8Length (first :: taken) → Lexed stop rest ts →
          Lexed start (first :: (taken ++ rest)) (⟨kind, ⟨start, stop⟩⟩ :: ts)

/-- The lexer follows the rules. -/
theorem lexed_lexFrom (start : Nat) (cs : List Char) : Lexed start cs (lexFrom start cs) := by
  fun_induction lexFrom start cs with
  | case1 => exact .nil
  | case2 start c cs hblank ih => exact .blank hblank ih
  | case3 start c cs hblank lexeme stop ih =>
    have htext : cs = lexeme.taken ++ lexeme.rest := (Lexeme.scan_taken_append_rest c cs).symm
    conv => arg 2; rw [htext]
    exact .token (Bool.eq_false_iff.2 hblank) (Lexeme.isToken_scan c cs) rfl ih

/-- **The lexer finds exactly the tokens that the rules allow.** -/
theorem lexFrom_eq_iff {start : Nat} {cs : List Char} {ts : List Token} :
    lexFrom start cs = ts ↔ Lexed start cs ts := by
  constructor
  · rintro rfl
    exact lexed_lexFrom start cs
  · intro h
    induction h with
    | nil => exact lexFrom_nil _
    | blank hblank _ ih => rw [lexFrom_cons, if_pos hblank, ih]
    | token hblank htoken hstop _ ih =>
      subst hstop
      rw [lexFrom_cons, if_neg (Bool.eq_false_iff.1 hblank), htoken.scan_eq]
      exact congrArg _ ih

/-! ### Spans -/

/-- The span is a part of a text that is not empty, and both of its ends are boundaries of
characters. -/
structure Span.Within (input : String) (span : Span) : Prop where
  start_lt_stop : span.start < span.stop
  stop_le : span.stop ≤ input.utf8ByteSize
  isValid_start : String.Pos.Raw.IsValid input ⟨span.start⟩
  isValid_stop : String.Pos.Raw.IsValid input ⟨span.stop⟩

/-- Offsets go on from one part of a text to the next. -/
theorem add_utf8Length_append (start : Nat) (cs ds : List Char) :
    start + utf8Length cs + utf8Length ds = start + utf8Length (cs ++ ds) := by
  rw [utf8Length_append, Nat.add_assoc]

namespace Lexed

variable {start : Nat} {cs : List Char} {ts : List Token}

/-- No token begins before the text does. -/
theorem start_le (h : Lexed start cs ts) : ∀ t ∈ ts, start ≤ t.span.start := by
  induction h with
  | nil => exact fun t ht => absurd ht List.not_mem_nil
  | blank _ _ ih => exact fun t ht => Nat.le_trans (Nat.le_add_right ..) (ih t ht)
  | token _ _ hstop _ ih =>
    refine List.forall_mem_cons.2 ⟨Nat.le_refl _, fun t ht => ?_⟩
    exact Nat.le_trans (hstop ▸ Nat.le_add_right ..) (ih t ht)

/-- A token ends before the next one begins. -/
theorem pairwise_stop_le (h : Lexed start cs ts) :
    ts.Pairwise fun a b => a.span.stop ≤ b.span.start := by
  induction h with
  | nil => exact .nil
  | blank _ _ ih => exact ih
  | token _ _ _ hrest ih => exact .cons hrest.start_le ih

/-- A token stands somewhere in the text and is followed by the rest of it. -/
theorem exists_part (h : Lexed start cs ts) : ∀ t ∈ ts, ∃ before first taken after,
    cs = before ++ (first :: taken ++ after) ∧ Text.isBlank first = false ∧
      IsToken (first :: taken) t.kind after ∧ t.span.start = start + utf8Length before ∧
        t.span.stop = start + utf8Length before + utf8Length (first :: taken) := by
  induction h with
  | nil => exact fun t ht => absurd ht List.not_mem_nil
  | @blank start c cs ts _ _ ih =>
    intro t ht
    obtain ⟨before, first, taken, after, rfl, hblank, htoken, hfirst, hlast⟩ := ih t ht
    have hoffset : start + c.utf8Size + utf8Length before = start + utf8Length (c :: before) :=
      add_utf8Length_append start [c] before
    rw [hoffset] at hfirst hlast
    exact ⟨c :: before, first, taken, after, rfl, hblank, htoken, hfirst, hlast⟩
  | @token start stop c here rest kind ts hblank htoken hstop _ ih =>
    refine List.forall_mem_cons.2 ⟨⟨[], c, here, rest, rfl, hblank, htoken, rfl, hstop⟩, ?_⟩
    intro t ht
    obtain ⟨before, first, taken, after, rfl, hblank, htoken, hfirst, hlast⟩ := ih t ht
    rw [hstop, add_utf8Length_append start (c :: here) before] at hfirst hlast
    exact ⟨c :: here ++ before, first, taken, after, (List.append_assoc (c :: here) ..).symm,
      hblank, htoken, hfirst, hlast⟩

theorem start_lt_stop (h : Lexed start cs ts) : ∀ t ∈ ts, t.span.start < t.span.stop := by
  intro t ht
  obtain ⟨before, first, taken, after, -, -, -, hfirst, hlast⟩ := h.exists_part t ht
  have := first.utf8Size_pos
  rw [utf8Length_cons] at hlast
  omega

/-- A token begins and ends before the next one. -/
theorem pairwise (h : Lexed start cs ts) :
    ts.Pairwise fun a b => a.span.start < b.span.start ∧ a.span.stop ≤ b.span.start :=
  h.pairwise_stop_le.imp_of_mem fun ha _ hab => ⟨Nat.lt_of_lt_of_le (h.start_lt_stop _ ha) hab, hab⟩

/-- A character that is no blank is in the span of a token. -/
theorem covered (h : Lexed start cs ts) : ∀ (before : List Char) (c : Char) (after : List Char),
    cs = before ++ c :: after → Text.isBlank c = false →
      ∃ t ∈ ts, t.span.start ≤ start + utf8Length before ∧
        start + utf8Length before + c.utf8Size ≤ t.span.stop := by
  induction h with
  | nil => exact fun before c after heq => absurd heq.symm (by simp)
  | @blank start b cs ts hb _ ih =>
    intro before c after heq hc
    cases before with
    | nil =>
      obtain ⟨rfl, -⟩ := List.cons.inj heq
      rw [hb] at hc
      cases hc
    | cons d before =>
      obtain ⟨rfl, rfl⟩ := List.cons.inj heq
      obtain ⟨t, ht, hfirst, hlast⟩ := ih before c after rfl hc
      have hoffset : start + b.utf8Size + utf8Length before = start + utf8Length (b :: before) :=
        add_utf8Length_append start [b] before
      rw [hoffset] at hfirst hlast
      exact ⟨t, ht, hfirst, hlast⟩
  | @token start stop first taken rest kind ts _ _ hstop _ ih =>
    intro before c after heq hc
    -- The character is one of the token, or one of what follows.
    rcases List.append_eq_append_iff.1 (show (first :: taken) ++ rest = _ from heq) with
      ⟨others, rfl, hrest⟩ | ⟨others, htext, hothers⟩
    · obtain ⟨t, ht, hfirst, hlast⟩ := ih others c after hrest hc
      rw [hstop, add_utf8Length_append] at hfirst hlast
      exact ⟨t, List.mem_cons_of_mem _ ht, hfirst, hlast⟩
    · cases others with
      | nil =>
        obtain ⟨t, ht, hfirst, hlast⟩ := ih [] c after hothers.symm hc
        rw [hstop, htext, List.append_nil, utf8Length_nil, Nat.add_zero] at hfirst hlast
        exact ⟨t, List.mem_cons_of_mem _ ht, hfirst, hlast⟩
      | cons d others =>
        obtain ⟨rfl, -⟩ := List.cons.inj hothers
        refine ⟨_, List.mem_cons_self .., Nat.le_add_right .., ?_⟩
        show start + utf8Length before + c.utf8Size ≤ stop
        rw [hstop, htext, utf8Length_append, utf8Length_cons]
        omega

/-- There are no more tokens than characters. -/
theorem length_le (h : Lexed start cs ts) : ts.length ≤ cs.length := by
  induction h with
  | nil => exact Nat.le_refl _
  | blank _ _ ih => exact Nat.le_succ_of_le ih
  | token _ _ _ _ ih =>
    rw [List.length_cons, List.length_cons, List.length_append]
    omega

end Lexed

/-- A token by itself is what the lexer finds. -/
theorem IsToken.lex_eq {first : Char} {taken rest : List Char} {kind : TokenKind}
    (hblank : Text.isBlank first = false) (h : IsToken (first :: taken) kind rest) :
    lex (String.ofList (first :: taken)) =
      [⟨kind, ⟨0, (String.ofList (first :: taken)).utf8ByteSize⟩⟩] := by
  have htext : first :: taken = first :: (taken ++ []) := by rw [List.append_nil]
  rw [lex, String.toList_ofList, lexFrom_eq_iff, utf8ByteSize_ofList]
  conv => arg 2; rw [htext]
  exact .token hblank h.alone (Nat.zero_add _).symm .nil

/-- A part that is not empty lies within the whole, between the parts at its sides. -/
theorem Span.within_append (before : String) {part : String} (hne : part ≠ "") (after : String) :
    Span.Within (before ++ (part ++ after))
      ⟨before.utf8ByteSize, (before ++ part).utf8ByteSize⟩ := by
  have hpart : 0 < part.utf8ByteSize :=
    Nat.pos_of_ne_zero (mt String.utf8ByteSize_eq_zero_iff.1 hne)
  have hsize : (before ++ part).utf8ByteSize = before.utf8ByteSize + part.utf8ByteSize :=
    String.utf8ByteSize_append
  have hwhole : (before ++ part ++ after).utf8ByteSize =
      (before ++ part).utf8ByteSize + after.utf8ByteSize := String.utf8ByteSize_append
  refine ⟨?_, ?_, ?_, ?_⟩
  · show before.utf8ByteSize < (before ++ part).utf8ByteSize
    omega
  · rw [← String.append_assoc]
    show (before ++ part).utf8ByteSize ≤ (before ++ part ++ after).utf8ByteSize
    omega
  · exact String.Pos.Raw.isValid_iff_exists_append.2 ⟨before, _, rfl, rfl⟩
  · exact String.Pos.Raw.isValid_iff_exists_append.2
      ⟨before ++ part, after, String.append_assoc.symm, rfl⟩

/-- A token of a text is a part of it. -/
theorem exists_part_of_mem_lex {input : String} {t : Token} (ht : t ∈ lex input) :
    ∃ before first taken after, Text.isBlank first = false ∧ IsToken (first :: taken) t.kind after ∧
      input = .ofList before ++ (.ofList (first :: taken) ++ .ofList after) ∧
      t.span = ⟨(String.ofList before).utf8ByteSize,
        (String.ofList before ++ .ofList (first :: taken)).utf8ByteSize⟩ := by
  obtain ⟨before, first, taken, after, hinput, hblank, htoken, hstart, hstop⟩ :=
    (lexed_lexFrom 0 input.toList).exists_part t ht
  refine ⟨before, first, taken, after, hblank, htoken, ?_, ?_⟩
  · rw [← String.ofList_append, ← String.ofList_append, ← hinput, String.ofList_toList]
  · rw [Nat.zero_add] at hstart hstop
    rw [String.utf8ByteSize_append, utf8ByteSize_ofList, utf8ByteSize_ofList, ← hstop, ← hstart]

theorem within_of_mem_lex {input : String} {t : Token} (ht : t ∈ lex input) :
    t.span.Within input := by
  obtain ⟨before, first, taken, after, -, -, hinput, hspan⟩ := exists_part_of_mem_lex ht
  rw [hspan, hinput]
  exact Span.within_append _ (by simp) _

/-- The tokens of a text follow each other. -/
theorem pairwise_lex (input : String) :
    (lex input).Pairwise fun a b => a.span.start < b.span.start ∧ a.span.stop ≤ b.span.start :=
  (lexed_lexFrom 0 input.toList).pairwise

/-- **The lexer loses nothing, and a token is one wherever it stands.** The tokens follow each
other in the text and share no byte of it; the text of a token is not empty, is cut out at
boundaries of characters, and is the same token when it is read alone. What is illegal is one
character or a quoted text that has no end, and what begins like a numeral is a number.
Between the tokens there are only blanks, and there are no more tokens than characters. -/
theorem lex_lossless (input : String) :
    ((lex input).Pairwise fun a b => a.span.start < b.span.start ∧ a.span.stop ≤ b.span.start) ∧
    (∀ t ∈ lex input, t.span.Within input ∧ ∃ before part after,
      input = before ++ (part ++ after) ∧
      t.span = ⟨before.utf8ByteSize, (before ++ part).utf8ByteSize⟩ ∧
      lex part = [⟨t.kind, ⟨0, part.utf8ByteSize⟩⟩] ∧
      (t.kind = .illegal → part.length = 1 ∨ after = "" ∧
        ∃ quote cs, quote ∈ quoteMarks ∧ part = String.ofList (quote :: cs) ∧ Unclosed quote cs) ∧
      (Lexeme.BeginsNumeral (part ++ after).toList →
        ∃ n : PlainNumeral, part = String.ofList n.text ∧ t.kind = .number n.value)) ∧
    (∀ before c after, input.toList = before ++ c :: after → Text.isBlank c = false →
      ∃ t ∈ lex input, t.span.start ≤ utf8Length before ∧
        utf8Length before + c.utf8Size ≤ t.span.stop) ∧
    (lex input).length ≤ input.length := by
  have hlexed : Lexed 0 input.toList (lex input) := lexed_lexFrom 0 input.toList
  refine ⟨pairwise_lex input, fun t ht => ⟨within_of_mem_lex ht, ?_⟩, ?_, hlexed.length_le⟩
  · obtain ⟨before, first, taken, after, hblank, htoken, hinput, hspan⟩ := exists_part_of_mem_lex ht
    refine ⟨_, _, _, hinput, hspan, htoken.lex_eq hblank, ?_, ?_⟩
    · intro hillegal
      rw [hillegal] at htoken
      rcases htoken.of_illegal with hone | ⟨rfl, quote, cs, hquote, htext, hunclosed⟩
      · exact .inl (String.length_ofList.trans hone)
      · exact .inr ⟨rfl, quote, cs, hquote, congrArg String.ofList htext, hunclosed⟩
    · intro hbegins
      rw [← String.ofList_append, String.toList_ofList] at hbegins
      obtain ⟨n, htext, hkind⟩ := htoken.of_beginsNumeral (List.cons_ne_nil _ _) hbegins
      exact ⟨n, congrArg String.ofList htext, hkind⟩
  · intro before c after hinput hblank
    obtain ⟨t, ht, hstart, hstop⟩ := hlexed.covered before c after hinput hblank
    rw [Nat.zero_add] at hstart hstop
    exact ⟨t, ht, hstart, hstop⟩

/-- Behind a numeral stand a point and a path, and then a quoted text that nothing ends. -/
theorem lex_lossless_unended :
    lex "-1.5.x 'é\\" = [⟨.number (.ofRatio true 15 10), ⟨0, 4⟩⟩, ⟨.illegal, ⟨4, 5⟩⟩,
      ⟨.identifier "x", ⟨5, 6⟩⟩, ⟨.illegal, ⟨7, 11⟩⟩] ∧
    Span.Within "-1.5.x 'é\\" ⟨7, 11⟩ ∧
    (∃ t ∈ lex "-1.5.x 'é\\", t.span.start ≤ 8 ∧ 10 ≤ t.span.stop) := by
  have hlex : lex "-1.5.x 'é\\" = [⟨.number (.ofRatio true 15 10), ⟨0, 4⟩⟩, ⟨.illegal, ⟨4, 5⟩⟩,
      ⟨.identifier "x", ⟨5, 6⟩⟩, ⟨.illegal, ⟨7, 11⟩⟩] := by decide +kernel
  obtain ⟨-, htokens, hcovered, -⟩ := lex_lossless "-1.5.x 'é\\"
  refine ⟨hlex, (htokens ⟨.illegal, ⟨7, 11⟩⟩ (by rw [hlex]; simp)).1, ?_⟩
  exact hcovered "-1.5.x '".toList 'é' "\\".toList (by decide +kernel) (by decide)

end RequestSql
