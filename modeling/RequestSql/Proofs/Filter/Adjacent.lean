import RequestSql.Proofs.Filter.Printing

/-!
# Texts next to each other

A text is read as its own tokens wherever it stands, and what follows it is read by itself, on two
conditions: what follows does not begin with a character that goes on with a token (a letter, a
digit, a point or the second sign of a pair), and the text does not end within quotes. Only the
second one is a matter of the text as a whole, and only one token can be to blame, the last one.
So reading a text leaves it closed, or opened at one quote after a part that is closed
(`Lexed.closed_or_opened`).

A quote goes on with no token, and a value between quotes ends where it should. So a value that is
quoted cannot be anything but one token, and has no effect on the tokens at its sides.

Key definitions: `Token.shift`, `Lexeme.goesOn`, `Lexed.Closed`, `Lexed.Opened`, `EndsOpen`.
Key theorems: `Lexed.shift`, `IsToken.closed_or_unclosed`, `Lexed.closed_or_opened`,
`stop_of_illegal_quote`, `lexFrom_quoted`, `quoted_value_is_one_token`.
-/

namespace RequestSql

open Text (NotAhead)

/-! ### Texts that begin later -/

/-- The same token, `bytes` further on. -/
def Token.shift (t : Token) (bytes : Nat) : Token := ⟨t.kind, t.span.shift bytes⟩

/-- A text that begins later has the same tokens, as much later. -/
theorem Lexed.shift {start : Nat} {cs : List Char} {ts : List Token} (h : Lexed start cs ts)
    (bytes : Nat) : Lexed (start + bytes) cs (ts.map (·.shift bytes)) := by
  induction h with
  | nil => exact .nil
  | blank hblank _ ih =>
    rw [Nat.add_right_comm] at ih
    exact .blank hblank ih
  | token hblank htoken hstop _ ih =>
    exact .token hblank htoken (by rw [hstop, Nat.add_right_comm]) ih

/-! ### What goes on with a token -/

/-- Whether a character may go on with a token that stands before it. -/
def Lexeme.goesOn (c : Char) : Bool := c == '=' || c == '~' || continuesPath c

namespace Lexeme

theorem continuesPath_of_isDigit {c : Char} (h : c.isDigit = true) : continuesPath c = true := by
  have hascii : c.toNat < 0x80 := by
    simp only [Char.isDigit, Bool.and_eq_true, decide_eq_true_eq] at h
    exact Nat.lt_of_le_of_lt (UInt32.le_iff_toNat_le.1 h.2) (by decide)
  have hnumeral : Text.isNumeral c = true := by rw [Text.isNumeral, if_pos hascii, h]
  rw [continuesPath, Text.isWordChar, hnumeral, Bool.or_true, Bool.true_or, Bool.true_or]

theorem goesOn_of_continuesPath {c : Char} (h : continuesPath c = true) : goesOn c = true := by
  rw [goesOn, h, Bool.or_true]

theorem goesOn_of_isDigit {c : Char} (h : c.isDigit = true) : goesOn c = true :=
  goesOn_of_continuesPath (continuesPath_of_isDigit h)

/-- The second sign of a pair goes on with the first one. -/
theorem goesOn_of_pair {c d : Char} (h : (c, d) ∈ signPairs.map Prod.fst) : goesOn d = true := by
  simp only [signPairs, List.map_cons, List.map_nil, List.mem_cons, Prod.mk.injEq,
    List.not_mem_nil, or_false] at h
  rcases h with ⟨-, rfl⟩ | ⟨-, rfl⟩ | ⟨-, rfl⟩ | ⟨-, rfl⟩ | ⟨-, rfl⟩ <;> rfl

end Lexeme

section

variable {before tail other : List Char}

/-- A numeral still ends if what follows is exchanged for what goes on with no token. -/
theorem PlainNumeral.Ends.exchange {n : PlainNumeral} (h : n.Ends (before ++ tail))
    (hother : NotAhead Lexeme.goesOn other) : n.Ends (before ++ other) := by
  have hdigits : NotAhead Char.isDigit other := hother.mono fun _ => Lexeme.goesOn_of_isDigit
  refine ⟨h.1.exchange hdigits, fun hplaces digits heq => ?_⟩
  match before, heq with
  | [], heq =>
    rw [List.nil_append] at heq
    exact absurd (hother '.' (by rw [heq]; rfl)) (by decide)
  | [_], heq =>
    obtain ⟨-, rfl⟩ := List.cons.inj heq
    exact hdigits
  | c :: d :: before, heq =>
    obtain ⟨rfl, rfl⟩ := List.cons.inj heq
    exact h.2 hplaces (d :: before ++ tail) rfl

/-- A token is the same if what follows is exchanged for what goes on with no token, unless it is
a quoted text that nothing ends. -/
theorem IsToken.closed_or_unclosed {text rest : List Char} {kind : TokenKind}
    (h : IsToken text kind rest) :
    (∀ before tail other, rest = before ++ tail → NotAhead Lexeme.goesOn other →
      IsToken text kind (before ++ other)) ∨
    (rest = [] ∧ kind = .illegal ∧
      ∃ quote cs, quote ∈ quoteMarks ∧ text = quote :: cs ∧ Unclosed quote cs) := by
  cases h with
  | sign hsign => exact .inl fun _ _ _ _ _ => .sign hsign
  | pair hpair => exact .inl fun _ _ _ _ _ => .pair hpair
  | @lone c kind rest hlone hnext =>
    refine .inl fun before tail other heq hother => .lone hlone fun d hd hpair => ?_
    cases before with
    | nil => exact Bool.eq_false_iff.1 (hother d hd) (Lexeme.goesOn_of_pair hpair)
    | cons e before =>
      subst heq
      exact hnext d hd hpair
  | number n hends =>
    refine .inl fun before tail other heq hother => .number n ?_
    subst heq
    exact hends.exchange hother
  | text hquote hwritten => exact .inl fun _ _ _ _ _ => .text hquote hwritten
  | unclosed hquote hunclosed => exact .inr ⟨rfl, rfl, _, _, hquote, rfl, hunclosed⟩
  | path hstart hparts hrest =>
    refine .inl fun before tail other heq hother => .path hstart hparts ?_
    subst heq
    exact hrest.exchange (hother.mono fun _ => Lexeme.goesOn_of_continuesPath)
  | illegal hreserved hdigit hstart hminus =>
    refine .inl fun before tail other heq hother => .illegal hreserved hdigit hstart fun hc => ?_
    subst heq
    exact (hminus hc).exchange (hother.mono fun _ => Lexeme.goesOn_of_isDigit)

end

/-! ### Closed and opened texts -/

namespace Lexed

/-- What follows the text and does not go on with a token is read by itself. -/
def Closed (start : Nat) (cs : List Char) (ts : List Token) : Prop :=
  ∀ tail us, NotAhead Lexeme.goesOn tail → Lexed (start + utf8Length cs) tail us →
    Lexed start (cs ++ tail) (ts ++ us)

/-- After a closed part a quote begins a text that nothing ends, and so one illegal token up to
the end. -/
def Opened (start : Nat) (cs : List Char) (ts : List Token) : Prop :=
  ∃ before quote others us, Closed start before us ∧ quote ∈ quoteMarks ∧ Unclosed quote others ∧
    cs = before ++ quote :: others ∧
    ts = us ++ [⟨.illegal, ⟨start + utf8Length before, start + utf8Length cs⟩⟩]

section

variable {start : Nat} {cs : List Char} {ts : List Token}

theorem Closed.nil (start : Nat) : Closed start [] [] := fun _ _ _ htail => htail

theorem Closed.blank {c : Char} (hblank : Text.isBlank c = true)
    (h : Closed (start + c.utf8Size) cs ts) : Closed start (c :: cs) ts := by
  intro tail us hnext htail
  rw [utf8Length_cons, ← Nat.add_assoc] at htail
  exact .blank hblank (h tail us hnext htail)

theorem Closed.token {first : Char} {taken rest : List Char} {kind : TokenKind}
    (hblank : Text.isBlank first = false)
    (htoken : ∀ tail, NotAhead Lexeme.goesOn tail → IsToken (first :: taken) kind (rest ++ tail))
    (h : Closed (start + utf8Length (first :: taken)) rest ts) :
    Closed start (first :: (taken ++ rest))
      (⟨kind, ⟨start, start + utf8Length (first :: taken)⟩⟩ :: ts) := by
  intro tail us hnext htail
  have htail : Lexed (start + utf8Length (first :: taken) + utf8Length rest) tail us := by
    rwa [add_utf8Length_append]
  rw [List.cons_append, List.cons_append, List.append_assoc]
  exact .token hblank (htoken tail hnext) rfl (h tail us hnext htail)

theorem Opened.blank {c : Char} (hblank : Text.isBlank c = true)
    (h : Opened (start + c.utf8Size) cs ts) : Opened start (c :: cs) ts := by
  obtain ⟨before, quote, others, us, hbefore, hquote, hunclosed, rfl, rfl⟩ := h
  refine ⟨c :: before, quote, others, us, hbefore.blank hblank, hquote, hunclosed, rfl, ?_⟩
  rw [utf8Length_cons, utf8Length_cons, Nat.add_assoc, Nat.add_assoc]

theorem Opened.token {first : Char} {taken rest : List Char} {kind : TokenKind}
    (hblank : Text.isBlank first = false)
    (htoken : ∀ before tail other, rest = before ++ tail → NotAhead Lexeme.goesOn other →
      IsToken (first :: taken) kind (before ++ other))
    (h : Opened (start + utf8Length (first :: taken)) rest ts) :
    Opened start (first :: (taken ++ rest))
      (⟨kind, ⟨start, start + utf8Length (first :: taken)⟩⟩ :: ts) := by
  obtain ⟨before, quote, others, us, hbefore, hquote, hunclosed, rfl, rfl⟩ := h
  refine ⟨first :: (taken ++ before), quote, others, _, hbefore.token hblank fun tail hnext =>
    htoken before _ tail rfl hnext, hquote, hunclosed, ?_, ?_⟩
  · rw [List.cons_append, List.append_assoc]
  · rw [add_utf8Length_append, add_utf8Length_append]
    rfl

/-- **A text that has been read is closed, or opened at a quote.** -/
theorem closed_or_opened (h : Lexed start cs ts) : Closed start cs ts ∨ Opened start cs ts := by
  induction h with
  | nil => exact .inl (.nil _)
  | blank hblank _ ih => exact ih.imp (.blank hblank) (.blank hblank)
  | @token start stop first taken rest kind ts hblank htoken hstop hrest ih =>
    subst hstop
    rcases htoken.closed_or_unclosed with hclosed | ⟨rfl, rfl, quote, others, hquote, heq, hunclosed⟩
    · refine ih.imp (fun ih => ih.token hblank fun tail hnext => ?_) (.token hblank hclosed)
      exact hclosed rest [] tail (List.append_nil rest).symm hnext
    · obtain ⟨rfl, rfl⟩ := List.cons.inj heq
      cases hrest
      exact .inr ⟨[], first, taken, [], .nil _, hquote, hunclosed, by rw [List.append_nil]; rfl,
        by rw [List.append_nil]; rfl⟩

end

end Lexed

/-- A quoted text that nothing ends stands at the end: an illegal token from a quote on. -/
def EndsOpen (input : String) : Prop :=
  ∃ before quote others, quote ∈ quoteMarks ∧ input.toList = before ++ quote :: others ∧
    ⟨.illegal, ⟨utf8Length before, input.utf8ByteSize⟩⟩ ∈ lex input

/-- A text without quotes does not end within quotes. -/
theorem not_endsOpen {input : String} (h : input.toList.all (· ∉ quoteMarks) = true) :
    ¬EndsOpen input := by
  rintro ⟨before, quote, others, hquote, htext, -⟩
  have hmem : quote ∈ input.toList := htext ▸ List.mem_append_right _ (List.mem_cons_self ..)
  exact of_decide_eq_true (List.all_eq_true.1 h quote hmem) hquote

theorem closed_or_opened_lex (input : String) :
    Lexed.Closed 0 input.toList (lex input) ∨ Lexed.Opened 0 input.toList (lex input) :=
  (lexed_lexFrom 0 input.toList).closed_or_opened

/-- What is opened at a quote ends open. -/
theorem Lexed.Opened.endsOpen {input : String} (h : Opened 0 input.toList (lex input)) :
    EndsOpen input := by
  obtain ⟨before, quote, others, us, -, hquote, -, htext, htokens⟩ := h
  refine ⟨before, quote, others, hquote, htext, ?_⟩
  rw [htokens, ← utf8Length_toList, Nat.zero_add, Nat.zero_add]
  exact List.mem_append_right _ (List.mem_cons_self ..)

/-! ### Quoted values -/

/-- A closed text in front of another one. -/
theorem Lexed.Closed.lexFrom_append {start : Nat} {cs tail : List Char} {ts : List Token}
    (h : Closed start cs ts) (htail : NotAhead Lexeme.goesOn tail) :
    lexFrom start (cs ++ tail) = ts ++ lexFrom (start + utf8Length cs) tail :=
  lexFrom_eq_iff.2 (h tail _ htail (lexed_lexFrom _ tail))

theorem notAhead_goesOn_of_quote {quote : Char} (h : quote ∈ quoteMarks) (cs : List Char) :
    NotAhead Lexeme.goesOn (quote :: cs) := by
  simp only [quoteMarks, List.mem_cons, List.not_mem_nil, or_false] at h
  rcases h with rfl | rfl <;> exact .cons (by decide) cs

/-- Nothing comes behind an illegal token that begins with a quote. -/
theorem IsToken.eq_nil_of_quote {quote : Char} (hquote : quote ∈ quoteMarks)
    {taken rest : List Char} (h : IsToken (quote :: taken) .illegal rest) : rest = [] := by
  have hscan := h.scan_eq
  rw [Lexeme.scan_quote hquote, Lexeme.text] at hscan
  split at hscan
  · cases hscan
  · exact (Lexeme.mk.inj hscan).2.2.symm

/-- An illegal token that begins with a quote ends where the text does. -/
theorem stop_of_illegal_quote {input : String} {t : Token} (ht : t ∈ lex input)
    (hkind : t.kind = .illegal) {before others : List Char} {quote : Char}
    (hquote : quote ∈ quoteMarks) (htext : input.toList = before ++ quote :: others)
    (hstart : t.span.start = utf8Length before) : t.span.stop = input.utf8ByteSize := by
  obtain ⟨front, first, taken, after, htext', -, htoken, hfront, hstop⟩ :=
    (lexed_lexFrom 0 input.toList).exists_part t ht
  rw [Nat.zero_add] at hfront hstop
  obtain ⟨rfl, hrest⟩ := append_inj_of_utf8Length (htext.symm.trans htext')
    (hstart.symm.trans hfront)
  obtain ⟨rfl, -⟩ := List.cons.inj hrest
  rw [hkind] at htoken
  obtain rfl := htoken.eq_nil_of_quote hquote
  rw [hstop, ← utf8Length_toList, htext', List.append_nil, utf8Length_append]

/-- A quoted value in front of a text is one token, and the text behind it is read by itself. -/
theorem lexFrom_quoted (mark : QuoteMark) (value right : String) (start : Nat) :
    lexFrom start ((mark.quoted value).toList ++ right.toList) =
      ⟨.text value, ⟨start, start + (mark.quoted value).utf8ByteSize⟩⟩ ::
        (lex right).map (·.shift (start + (mark.quoted value).utf8ByteSize)) := by
  have htoken : IsToken (mark.char :: (mark.escaped value.toList ++ [mark.char]))
      (.text (String.ofList value.toList)) right.toList := .text mark.char_mem (mark.quoted_escaped _)
  have hright := (lexed_lexFrom 0 right.toList).shift (start + (mark.quoted value).utf8ByteSize)
  rw [Nat.zero_add] at hright
  have hsize : (mark.quoted value).utf8ByteSize =
      utf8Length (mark.char :: (mark.escaped value.toList ++ [mark.char])) := utf8ByteSize_ofList _
  have hlexed :=
    Lexed.token (isBlank_of_quote mark.char_mem) htoken (congrArg (start + ·) hsize) hright
  rw [String.ofList_toList] at hlexed
  have htext : (mark.quoted value).toList ++ right.toList =
      mark.char :: (mark.escaped value.toList ++ [mark.char] ++ right.toList) := by
    rw [QuoteMark.quoted, String.toList_ofList, List.cons_append]
  rw [htext]
  exact lexFrom_eq_iff.2 hlexed

/-- **A quoted value is one token**, with the value as its content and just the bytes of its
quotation, between the tokens of what stands before and behind it, unless what stands before ends
within quotes. This goes for every value, between either quotes. -/
theorem quoted_value_is_one_token (mark : QuoteMark) (value left right : String) :
    lex (left ++ mark.quoted value ++ right) =
        lex left ++ ⟨.text value, ⟨left.utf8ByteSize, (left ++ mark.quoted value).utf8ByteSize⟩⟩ ::
          (lex right).map (·.shift (left ++ mark.quoted value).utf8ByteSize) ↔
      ¬EndsOpen left := by
  have htext : (left ++ mark.quoted value ++ right).toList =
      left.toList ++ ((mark.quoted value).toList ++ right.toList) := by
    rw [String.toList_append, String.toList_append, List.append_assoc]
  have hsize : (left ++ mark.quoted value).utf8ByteSize =
      left.utf8ByteSize + (mark.quoted value).utf8ByteSize := String.utf8ByteSize_append
  constructor
  · rintro heq ⟨before, quote, others, hquote, hleft, hopen⟩
    -- The open token would have to go on through the value, to the end of all.
    have hmem : (⟨.illegal, ⟨utf8Length before, left.utf8ByteSize⟩⟩ : Token) ∈
        lex (left ++ mark.quoted value ++ right) := by
      rw [heq]
      exact List.mem_append_left _ hopen
    have hstop := stop_of_illegal_quote hmem rfl hquote
      (by rw [htext, hleft, List.append_assoc, List.cons_append]) rfl
    have hquoted : 0 < (mark.quoted value).utf8ByteSize := by
      rw [QuoteMark.quoted, utf8ByteSize_ofList, utf8Length_cons]
      exact Nat.add_pos_left mark.char.utf8Size_pos _
    have hwhole : (left ++ mark.quoted value ++ right).utf8ByteSize =
      (left ++ mark.quoted value).utf8ByteSize + right.utf8ByteSize := String.utf8ByteSize_append
    have hstop : left.utf8ByteSize = (left ++ mark.quoted value ++ right).utf8ByteSize := hstop
    omega
  · intro hclosed
    have hclosed := (closed_or_opened_lex left).resolve_right (mt Lexed.Opened.endsOpen hclosed)
    have htail : NotAhead Lexeme.goesOn ((mark.quoted value).toList ++ right.toList) := by
      rw [QuoteMark.quoted, String.toList_ofList]
      exact notAhead_goesOn_of_quote mark.char_mem _
    rw [lex, htext, hclosed.lexFrom_append htail, Nat.zero_add, utf8Length_toList, lexFrom_quoted,
      hsize]

/-- Neither the point of a numeral nor a sign that waits for another one takes part in the value,
and the quote behind it begins a token of its own. Within other quotes the value is no token. -/
theorem quoted_value_is_one_token_behind_signs :
    lex ("n > 1.!" ++ QuoteMark.single.quoted "it's \\" ++ "'or") =
      lex "n > 1.!" ++ ⟨.text "it's \\", ⟨7, 17⟩⟩ :: (lex "'or").map (·.shift 17) ∧
    lex ("n == \"x" ++ QuoteMark.single.quoted "it's \\" ++ "'or") ≠
      lex "n == \"x" ++ ⟨.text "it's \\", ⟨7, 17⟩⟩ :: (lex "'or").map (·.shift 17) := by
  have hclosed : ¬EndsOpen "n > 1.!" := not_endsOpen (by decide)
  have hopen : EndsOpen "n == \"x" := ⟨"n == ".toList, '"', ['x'], by decide, rfl, by decide +kernel⟩
  refine ⟨(quoted_value_is_one_token .single "it's \\" _ "'or").2 hclosed, fun h => ?_⟩
  exact (quoted_value_is_one_token .single "it's \\" _ "'or").1 h hopen

end RequestSql
