import RequestSql.Proofs.Filter.Adjacent
import RequestSql.Proofs.Filter.Displaced
import RequestSql.Proofs.Request.Presence

/-!
# Blanks around a filter

A filter parameter is read without the blanks around it, and a filter text may have blanks around
it, so it should not matter whether they are there. Blanks in front move all tokens by as many
bytes. Blanks behind make no difference to a text that is closed; a text that ends within quotes
takes them up, and then the last token is longer, but it is still the same illegal token.

So a text has the tokens of the trimmed one in other places, and the parser does not look at
places. What is left of the difference are the spans of errors.

Key theorems: `Lexed.Closed.append_blanks`, `Lexed.Opened.append_blanks`, `lex_eq_trimmed`,
`parseFilter_eq_trimmed`, `Params.readFilter_cases`, `trimmed_filter_reads_alike`.
-/

namespace RequestSql

open Text (Blanks NotAhead)

/-! ### Blanks within quotes -/

section

variable {quote : Char} {content written : List Char}

theorem Quoted.append (h : Quoted quote content written) {others writing : List Char}
    (hothers : Quoted quote others writing) :
    Quoted quote (content ++ others) (written ++ writing) := by
  induction h with
  | nil => exact hothers
  | plain hc hbackslash _ ih => exact .plain hc hbackslash ih
  | escaped _ ih => exact .escaped ih

/-- What has neither quotes nor backslashes is written as it is. -/
theorem Quoted.of_plain {text : List Char} (h : ∀ c ∈ text, c ≠ quote ∧ c ≠ '\\') :
    Quoted quote text text := by
  induction text with
  | nil => exact .nil
  | cons c text ih =>
    obtain ⟨hc, htext⟩ := List.forall_mem_cons.1 h
    exact .plain hc.1 hc.2 (ih htext)

/-- What has neither quotes nor backslashes ends no quoted text; a backslash in front of it goes
with its first character. -/
theorem Unclosed.append {cs tail : List Char} (h : Unclosed quote cs)
    (htail : ∀ c ∈ tail, c ≠ quote ∧ c ≠ '\\') : Unclosed quote (cs ++ tail) := by
  obtain ⟨content, written, hwritten, rfl | rfl⟩ := h
  · exact ⟨_, _, hwritten.append (.of_plain htail), .inl rfl⟩
  · cases tail with
    | nil => exact ⟨content, written, hwritten, .inr (List.append_nil _)⟩
    | cons c tail =>
      have htail : Quoted quote tail tail := .of_plain (List.forall_mem_cons.1 htail).2
      have hescaped : Quoted quote (c :: tail) ('\\' :: c :: tail) := .escaped htail
      exact ⟨_, _, hwritten.append hescaped, .inl (List.append_assoc ..)⟩

end

theorem ne_of_blank {quote : Char} (hquote : quote ∈ quoteMarks) {c : Char}
    (hc : Text.isBlank c = true) : c ≠ quote ∧ c ≠ '\\' :=
  ⟨Text.ne_of_apart hc (isBlank_of_quote hquote), Text.ne_of_apart hc (by decide)⟩

/-! ### Blanks at the ends of a text -/

/-- Blanks go on with no token, whatever they stand in front of. -/
theorem notAhead_goesOn_of_blanks {trail tail : List Char} (htrail : Blanks trail)
    (htail : NotAhead Lexeme.goesOn tail) : NotAhead Lexeme.goesOn (trail ++ tail) := by
  cases trail with
  | nil => exact htail
  | cons c trail =>
    exact .cons (Text.eq_false_of_isBlank (by decide +kernel) (htrail c (List.mem_cons_self ..))) _

/-- What is passed on from behind a blank is passed on from behind several. -/
theorem of_blanks_append {P : Nat → List Char → Prop}
    (hblank : ∀ {start c cs}, Text.isBlank c = true → P (start + c.utf8Size) cs → P start (c :: cs))
    {lead : List Char} (hlead : Blanks lead) {start : Nat} {cs : List Char}
    (h : P (start + utf8Length lead) cs) : P start (lead ++ cs) := by
  induction lead generalizing start with
  | nil => exact h
  | cons c lead ih =>
    obtain ⟨hc, hlead⟩ := List.forall_mem_cons.1 hlead
    rw [utf8Length_cons, ← Nat.add_assoc] at h
    exact hblank hc (ih hlead h)

/-- Where what ended at one place ends when that place is some bytes further on. -/
def putOff (place bytes stop : Nat) : Nat := if stop = place then stop + bytes else stop

namespace Lexed

variable {start : Nat} {cs lead trail : List Char} {ts : List Token}

theorem blanks_append (hlead : Blanks lead) (h : Lexed (start + utf8Length lead) cs ts) :
    Lexed start (lead ++ cs) ts :=
  of_blanks_append (P := fun start cs => Lexed start cs ts) .blank hlead h

namespace Closed

theorem lexed (h : Closed start cs ts) : Lexed start cs ts := by
  have hlexed := h [] [] .nil .nil
  rwa [List.append_nil, List.append_nil] at hlexed

/-- Blanks behind a closed text are passed over. -/
theorem append_blanks (h : Closed start cs ts) (htrail : Blanks trail) :
    Closed start (cs ++ trail) ts := by
  intro tail us hnext htail
  rw [List.append_assoc]
  rw [← add_utf8Length_append] at htail
  exact h (trail ++ tail) us (notAhead_goesOn_of_blanks htrail hnext) (htail.blanks_append htrail)

end Closed

namespace Opened

theorem lexed (h : Opened start cs ts) : Lexed start cs ts := by
  obtain ⟨before, quote, others, us, hbefore, hquote, hunclosed, rfl, rfl⟩ := h
  have htoken := Lexed.token (isBlank_of_quote hquote) (.unclosed hquote hunclosed)
    (add_utf8Length_append start before (quote :: others)).symm .nil
  rw [List.append_nil] at htoken
  exact hbefore _ _ (notAhead_goesOn_of_quote hquote others) htoken

theorem blanks_append (hlead : Blanks lead) (h : Opened (start + utf8Length lead) cs ts) :
    Opened start (lead ++ cs) ts :=
  of_blanks_append (P := fun start cs => Opened start cs ts) Opened.blank hlead h

/-- Blanks behind an opened text belong to its last token, which ends with them. -/
theorem append_blanks (h : Opened start cs ts) (htrail : Blanks trail) :
    Opened start (cs ++ trail)
      (ts.map (Token.move id (putOff (start + utf8Length cs) (utf8Length trail)))) := by
  have hpairwise := h.lexed.pairwise
  obtain ⟨before, quote, others, us, hbefore, hquote, hunclosed, rfl, rfl⟩ := h
  have hlonger : Unclosed quote (others ++ trail) :=
    hunclosed.append fun c hc => ne_of_blank hquote (htrail c hc)
  refine ⟨before, quote, others ++ trail, us, hbefore, hquote, hlonger, ?_, ?_⟩
  · rw [List.append_assoc, List.cons_append]
  · have hus : ∀ t ∈ us, Token.move id (putOff (start + utf8Length (before ++ quote :: others))
        (utf8Length trail)) t = t := by
      -- The other tokens end where the quote stands, or before it.
      intro t ht
      have hstop := ((List.pairwise_append.1 hpairwise).2.2 t ht _ (List.mem_singleton_self _)).2
      have := quote.utf8Size_pos
      rw [utf8Length_append, utf8Length_cons, Token.move, Span.move, putOff, if_neg]
      · rfl
      · simp only at hstop
        omega
    rw [List.map_append, List.map_congr_left hus, List.map_id', utf8Length_append _ trail,
      ← Nat.add_assoc]
    simp [Token.move, Span.move, putOff]

end Opened

end Lexed

/-- With blanks around it a text has the same tokens in other places. They all begin and end as
many bytes later, unless the text ends within quotes. -/
theorem lexFrom_surrounded {lead trail : List Char} (hlead : Blanks lead) (htrail : Blanks trail)
    (core : List Char) : ∃ stop,
    lexFrom 0 (lead ++ (core ++ trail)) =
        (lexFrom 0 core).map (Token.move (· + utf8Length lead) stop) ∧
      (stop = (· + utf8Length lead) ∨
        Lexed.Opened 0 (lead ++ (core ++ trail)) (lexFrom 0 (lead ++ (core ++ trail)))) := by
  have hshift := (lexed_lexFrom 0 core).shift (utf8Length lead)
  rcases hshift.closed_or_opened with h | h
  · have hlexed := (h.append_blanks htrail).lexed.blanks_append hlead
    exact ⟨(· + utf8Length lead), lexFrom_eq_iff.2 hlexed, .inl rfl⟩
  · have hopened := (h.append_blanks htrail).blanks_append hlead
    have htokens := lexFrom_eq_iff.2 hopened.lexed
    refine ⟨putOff (0 + utf8Length lead + utf8Length core) (utf8Length trail) ∘
      (· + utf8Length lead), ?_, .inr (by rwa [htokens])⟩
    rw [htokens, List.map_map]
    rfl

/-! ### Trimmed texts -/

/-- How many bytes are trimmed off in front. -/
def leadLength (text : String) : Nat := utf8Length (text.toList.takeWhile Text.isBlank)

/-- **A text has the tokens of the trimmed text**, as many bytes later as it has in front. Only
where it ends within quotes does the last of them end later still. -/
theorem lex_eq_trimmed (text : String) : ∃ stop,
    lex text = (lex (trimmed text)).map (Token.move (· + leadLength text) stop) ∧
      (¬EndsOpen text → stop = (· + leadLength text)) := by
  obtain ⟨trail, htrail, htext⟩ := Text.exists_trim text.toList
  obtain ⟨stop, htokens, hstop⟩ :=
    lexFrom_surrounded (.takeWhile text.toList) htrail (Text.trim text.toList)
  rw [← htext] at htokens hstop
  refine ⟨stop, ?_, fun hclosed => hstop.resolve_right (mt Lexed.Opened.endsOpen hclosed)⟩
  rw [lex, lex, trimmed, String.toList_ofList]
  exact htokens

theorem parseFilter_eq_trimmed (text : String) : ∃ stop,
    parseFilter text =
        (parseFilter (trimmed text)).mapError (.move (· + leadLength text) stop) ∧
      (¬EndsOpen text → stop = (· + leadLength text)) := by
  obtain ⟨stop, htokens, hstop⟩ := lex_eq_trimmed text
  refine ⟨stop, ?_, hstop⟩
  rw [parseFilter, parseFilter, htokens, parseTokens_move]

/-! ### The parameter -/

/-- Nothing is read from a filter that is nothing but blanks, and otherwise the trimmed text. -/
theorem Params.readFilter_eq (params : Params) (text : String) :
    readFilter { params with filter := some text } =
      if Blanks text.toList then .ok none
      else ((parseFilter (trimmed text)).mapError .filter).map some := by
  by_cases hblanks : Blanks text.toList
  · have habsent : ¬IsPresent (some text) := by rwa [isPresent_some, not_not]
    rw [if_pos hblanks, readFilter, present?_eq_none.2 habsent]
  · simp only [if_neg hblanks, readFilter, present?_some (isPresent_some.2 hblanks)]
    cases parseFilter (trimmed text) <;> rfl

/-- How a filter parameter is read, beside how its text is parsed: both read the same filter, or
both fail with the same error in other places, unless there are only blanks. -/
theorem Params.readFilter_cases (params : Params) (text : String) :
    let read := readFilter { params with filter := some text }
    (Blanks text.toList ∧ read = .ok none ∧ ∃ e, parseFilter text = .error e) ∨
    (¬Blanks text.toList ∧ ∃ f, read = .ok (some f) ∧ parseFilter text = .ok f) ∨
    (¬Blanks text.toList ∧ ∃ e stop, read = .error (.filter e) ∧
      parseFilter text = .error (e.move (· + leadLength text) stop) ∧
        (¬EndsOpen text → stop = (· + leadLength text))) := by
  intro read
  obtain ⟨stop, hparse, hstop⟩ := parseFilter_eq_trimmed text
  have hread : read = _ := readFilter_eq params text
  by_cases hblanks : Blanks text.toList
  · rw [if_pos hblanks] at hread
    have hnone : trimmed text = "" := by
      rw [trimmed, Text.trim_eq_nil.2 hblanks, String.ofList_nil]
    have hempty : parseFilter "" = .error (.incomplete .operand) := by decide +kernel
    rw [hnone, hempty] at hparse
    exact .inl ⟨hblanks, hread, _, hparse⟩
  · rw [if_neg hblanks] at hread
    cases hcore : parseFilter (trimmed text) with
    | ok f =>
      rw [hcore] at hread hparse
      exact .inr (.inl ⟨hblanks, f, hread, hparse⟩)
    | error e =>
      rw [hcore] at hread hparse
      exact .inr (.inr ⟨hblanks, e, stop, hread, hparse, hstop⟩)

/-- **It does not matter that a filter parameter is trimmed.** -/
theorem trimmed_filter_reads_alike (params : Params) (text : String) :
    let read := Params.readFilter { params with filter := some text }
    let lead := utf8Length (text.toList.takeWhile Text.isBlank)
    (read = .ok none ↔ ∀ c ∈ text.toList, Text.isBlank c = true) ∧
    (∀ f, read = .ok (some f) ↔ parseFilter text = .ok f) ∧
    (∀ e, parseFilter text = .error e → (∃ c ∈ text.toList, Text.isBlank c = false) →
      ∃ e', read = .error (.filter e') ∧ e'.message = e.message ∧
        (e'.span.isSome ↔ e.span.isSome) ∧
        ∀ span span', e.span = some span → e'.span = some span' →
          span'.start + lead = span.start ∧
          (¬EndsOpen text → span'.stop + lead = span.stop)) := by
  intro read lead
  obtain ⟨hblanks, hread, e, hparse⟩ | ⟨hblanks, f, hread, hparse⟩ |
    ⟨hblanks, e', stop, hread, hparse, hstop⟩ := Params.readFilter_cases params text
  · have hread : read = .ok none := hread
    refine ⟨iff_of_true hread hblanks, fun f => by simp [hread, hparse], fun e _ hsome => ?_⟩
    obtain ⟨c, hc, hnot⟩ := hsome
    rw [hblanks c hc] at hnot
    cases hnot
  · have hread : read = .ok (some f) := hread
    exact ⟨iff_of_false (by simp [hread]) hblanks, fun f => by simp [hread, hparse],
      fun e he => by simp [hparse] at he⟩
  · have hread : read = .error (.filter e') := hread
    refine ⟨iff_of_false (by simp [hread]) hblanks, fun f => by simp [hread, hparse], ?_⟩
    intro e he _
    obtain rfl : e'.move (· + leadLength text) stop = e := Except.error.inj (hparse.symm.trans he)
    rw [ParseError.message_move, ParseError.span_move]
    refine ⟨e', hread, rfl, by simp, fun span span' hspan hspan' => ?_⟩
    rw [hspan', Option.map_some, Option.some.injEq] at hspan
    subst hspan
    exact ⟨rfl, fun hclosed => by rw [hstop hclosed]; rfl⟩

/-- Where the text ends within quotes, even with a blank that is escaped, the span begins where it
should; where nothing is open, it ends there too. -/
theorem trimmed_filter_reads_alike_escaped_blank :
    (∃ e' span', Params.readFilter { Params.empty with filter := some "\u00a0\u3000n == 'a\\ " } =
        .error (.filter e') ∧ e'.message = "Expected literal value, found Illegal" ∧
        e'.span = some span' ∧ span'.start + 5 = 10) ∧
    (∃ e' span', Params.readFilter { Params.empty with filter := some "\u00a0n > null\u2003" } =
        .error (.filter e') ∧ e'.message = "Comparison on 'n' requires a number value" ∧
        e'.span = some span' ∧ span'.start + 2 = 2 ∧ span'.stop + 2 = 10) := by
  have hopened : parseFilter "\u00a0\u3000n == 'a\\ " =
      .error (.unexpected .literal ⟨.illegal, ⟨10, 14⟩⟩) := by decide +kernel
  have hwhole : parseFilter "\u00a0n > null\u2003" =
      .error (.orderNeedsNumber ⟨["n"]⟩ ⟨2, 10⟩) := by decide +kernel
  have hclosed : ¬EndsOpen "\u00a0n > null\u2003" := not_endsOpen (by decide)
  obtain ⟨e, hread, hmessage, hspan, hplace⟩ :=
    (trimmed_filter_reads_alike Params.empty _).2.2 _ hopened ⟨'n', by decide +kernel, by decide⟩
  obtain ⟨e', hread', hmessage', hspan', hplace'⟩ :=
    (trimmed_filter_reads_alike Params.empty _).2.2 _ hwhole ⟨'n', by decide +kernel, by decide⟩
  obtain ⟨span, he⟩ := Option.isSome_iff_exists.1 (hspan.2 rfl)
  obtain ⟨span', he'⟩ := Option.isSome_iff_exists.1 (hspan'.2 rfl)
  refine ⟨⟨e, span, hread, hmessage, he, (hplace _ _ rfl he).1⟩,
    ⟨e', span', hread', hmessage', he', (hplace' _ _ rfl he').1, (hplace' _ _ rfl he').2 hclosed⟩⟩

end RequestSql
