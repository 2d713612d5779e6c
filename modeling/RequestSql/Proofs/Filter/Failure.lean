import RequestSql.Proofs.Filter.Runs
import RequestSql.Proofs.Filter.Spans

/-!
# What an error says about the tokens

A list of tokens is no filter for one of two reasons. It ends too early: then its error has
no span, and there are tokens that would have completed it. Or a token is wrong: then the
error has a span, and nothing that follows can mend it. The span of an error begins where a
token begins and ends where that token or a later one ends.

The three parts are proved side by side, from the reader of conditions up to whole filters.
A reader `Completes` what it has begun, within the depth it has; it is `Steady` if more
tokens at the end change nothing that has been decided; and it `Locates` what it refuses. A
chain has each of these from its items, by induction on the run of its loop, and an operand
has it from the operands one level below.

Key definitions: `Completes`, `Steady`, `Locates`.
Key theorems: `operand_completes`, `operand_steady`, `operand_locates`,
`parse_error_classified`.
-/

namespace RequestSql

/-! ### Tokens that end too early -/

/-- Where the tokens only end too early, others would have completed them, and none of these
stands deeper than `depth`. -/
def Completes (item : FilterReader) (Item : List Token → Filter → Nat → Prop) (depth : Nat) :
    Prop :=
  ∀ (ts : List Token) (e : ParseError), item.run ts = .error e → e.span = none →
    ∃ us f n, Item (ts ++ us) f n ∧ n ≤ depth

/-- A condition whose operator and literal do not fit each other is an error with a span. -/
theorem condition_error_span {path : FieldPath} {operatorSpan span : Span}
    {comparison : Comparison} {value : Literal} {e : ParseError}
    (h : condition path operatorSpan span comparison value = .error e) :
    e.span = some operatorSpan ∨ e.span = some span := by
  unfold condition at h
  split at h <;> cases h
  · exact .inl rfl
  · exact .inr rfl

/-- A token of a kind, wherever it may stand. -/
def TokenKind.somewhere (kind : TokenKind) : Token := ⟨kind, ⟨0, 0⟩⟩

/-- Every operator has a literal that it compares with. -/
theorem exists_literal (path : FieldPath) {kind : TokenKind} {comparison : Comparison}
    (h : kind.comparison? = some comparison) :
    ∃ literal f, ConditionRule path kind literal f := by
  unfold TokenKind.comparison? at h
  split at h
  · exact ⟨.null, _, .eqNull⟩
  · exact ⟨.null, _, .notEqNull⟩
  · exact ⟨.text "", _, .matching ""⟩
  · exact ⟨.text "", _, .notMatching ""⟩
  · exact ⟨.number (.ofInt 0), _, .gt _⟩
  · exact ⟨.number (.ofInt 0), _, .ge _⟩
  · exact ⟨.number (.ofInt 0), _, .lt _⟩
  · exact ⟨.number (.ofInt 0), _, .le _⟩
  · cases h

/-- A condition that ends too early lacks its literal, or its operator too. -/
theorem conditionFrom_completes {t : Token} {path : String} (ht : t.kind = .identifier path)
    {ts : List Token} {e : ParseError}
    (h : FilterReader.run (conditionFrom (.ofDotted path) t.span) ts = .error e)
    (he : e.span = none) : ∃ us f, Operand (t :: (ts ++ us)) f 0 := by
  cases run_conditionFrom_eq_error.1 h with
  | noOperator =>
    exact ⟨[TokenKind.eq.somewhere, TokenKind.null.somewhere], _, .condition ht .eqNull⟩
  | notOperator _ => cases he
  | noLiteral hop =>
    obtain ⟨literal, f, hrule⟩ := exists_literal (.ofDotted path) hop
    exact ⟨[literal.somewhere], f, .condition ht hrule⟩
  | notLiteral _ _ => cases he
  | mismatch _ _ h => rcases condition_error_span h with h | h <;> rw [h] at he <;> cases he

section

variable {separator : TokenKind} {join : Filter → Filter → Filter} {item : FilterReader}
  {Item : List Token → Filter → Nat → Prop} {depth : Nat}

/-- The item that is missing completes the chain that has been read up to `left`. -/
theorem Loops.completes (hsound : Sound item Item depth) (hitem : Completes item Item depth)
    {left : Filter} {ts : List Token} {e : ParseError}
    (h : Loops separator join item left ts (.error e)) (he : e.span = none) :
    ∀ (read : List Token) (n : Nat), Chained separator join Item read left n → n ≤ depth →
      ∃ us f m, Chained separator join Item (read ++ (ts ++ us)) f m ∧ m ≤ depth := by
  generalize hr : Except.error e = r at h
  induction h with
  | stop => cases hr
  | fail ht hrun =>
    cases hr
    intro read n hread hn
    obtain ⟨us, f, m, hus, hm⟩ := hitem _ e hrun he
    exact ⟨us, _, _, .more hread ht hus, Nat.max_le.2 ⟨hn, hm⟩⟩
  | @more left right t ts rest r ht hrun _ ih =>
    intro read n hread hn
    obtain ⟨vs, m, rfl, hvs, hm⟩ := hsound _ right rest hrun
    obtain ⟨us, f, k, hus, hk⟩ :=
      ih hr (read ++ t :: vs) _ (.more hread ht hvs) (Nat.max_le.2 ⟨hn, hm⟩)
    refine ⟨us, f, k, ?_, hk⟩
    have hsame : read ++ t :: vs ++ (rest ++ us) = read ++ (t :: (vs ++ rest) ++ us) := by simp
    rwa [hsame] at hus

theorem chain_completes (hsound : Sound item Item depth) (hitem : Completes item Item depth) :
    Completes (chain separator join item) (Chained separator join Item) depth := by
  intro ts e h he
  rw [run_chain] at h
  rcases Outcome.bind_eq_error.1 h with h | ⟨⟨left, rest⟩, hleft, hloop⟩
  · obtain ⟨us, f, n, hus, hn⟩ := hitem ts e h he
    exact ⟨us, f, n, .one hus, hn⟩
  · obtain ⟨read, n, rfl, hread, hn⟩ := hsound ts left rest hleft
    obtain ⟨us, f, m, hus, hm⟩ :=
      (runChainFrom_eq_iff.1 hloop).completes hsound hitem he read n (.one hread) hn
    exact ⟨us, f, m, by rwa [List.append_assoc], hm⟩

end

/-- A group lacks the end of what it encloses, or only its closing parenthesis. -/
theorem groupOf_completes {item : FilterReader} {depth : Nat} (hsound : Sound item Operand depth)
    (hitem : Completes item Operand depth) {opening : Token} (hopening : opening.kind = .lparen)
    {ts : List Token} {e : ParseError} (h : FilterReader.run (groupOf item) ts = .error e)
    (he : e.span = none) : ∃ us f n, Operand (opening :: (ts ++ us)) f n ∧ n ≤ depth + 1 := by
  have hclose : ∀ us f n, Disjunction (ts ++ us) f n → n ≤ depth →
      ∃ us f n, Operand (opening :: (ts ++ us)) f n ∧ n ≤ depth + 1 := fun us f n hus hn => by
    refine ⟨us ++ [TokenKind.rparen.somewhere], f, n + 1, ?_, Nat.succ_le_succ hn⟩
    rw [← List.append_assoc]
    exact .group hopening hus rfl
  rw [run_groupOf] at h
  rcases Outcome.bind_eq_error.1 h with h | ⟨⟨f, rest⟩, hread, hend⟩
  · obtain ⟨us, f, n, hus, hn⟩ := chain_completes (chain_sound hsound)
      (chain_completes hsound hitem) ts e h he
    exact hclose us f n hus hn
  · obtain ⟨read, n, rfl, hinner, hn⟩ := disjunctionOf_sound hsound ts f rest hread
    cases rest with
    | nil => exact hclose [] f n (by rwa [List.append_nil, List.append_nil]) hn
    | cons t rest =>
      simp only at hend
      split at hend <;> cases hend
      cases he

/-- An operand is completed by what it needs at the least. -/
theorem operand_completes (depth : Nat) : Completes (operand depth) Operand depth := by
  induction depth using Nat.strongRecOn with
  | ind depth ih =>
    intro ts e h he
    generalize hr : Except.error e = r at h
    cases run_operand_eq_iff.1 h with
    | nil =>
      have hleast : Operand [(TokenKind.identifier "").somewhere, TokenKind.eq.somewhere,
          TokenKind.null.somewhere] (.null (.ofDotted "") false) 0 := .condition rfl .eqNull
      exact ⟨_, _, 0, hleast, Nat.zero_le _⟩
    | tooDeep => cases hr; cases he
    | begins hbegins =>
      cases hbegins with
      | @not depth t ht =>
        rw [run_negationOf] at hr
        obtain ⟨us, f, n, hus, hn⟩ :=
          ih depth (Nat.lt_succ_self _) _ e (Outcome.map_eq_error.1 hr.symm) he
        exact ⟨us, f.negate, n + 1, .not ht hus, Nat.succ_le_succ hn⟩
      | @group depth t ht =>
        exact groupOf_completes (operand_sound depth) (ih depth (Nat.lt_succ_self _)) ht hr.symm he
      | condition ht =>
        obtain ⟨us, f, hus⟩ := conditionFrom_completes ht hr.symm he
        exact ⟨us, f, 0, hus, Nat.zero_le _⟩
    | other => cases hr; cases he

/-! ### Tokens that are wrong -/

/-- More tokens at the end change nothing that has been decided: neither what has been read
in front of another token nor an error at a token. -/
structure Steady (item : FilterReader) : Prop where
  ok_append {ts rest : List Token} {f : Filter} {t : Token} :
    item.run ts = .ok (f, t :: rest) → ∀ us, item.run (ts ++ us) = .ok (f, t :: (rest ++ us))
  error_append {ts : List Token} {e : ParseError} :
    item.run ts = .error e → e.span ≠ none → ∀ us, item.run (ts ++ us) = .error e

theorem conditionFrom_steady (path : FieldPath) (pathSpan : Span) :
    Steady (conditionFrom path pathSpan) where
  ok_append h us := by
    obtain ⟨operator, literal, rfl, hrule⟩ := run_conditionFrom_eq_ok.1 h
    exact run_conditionFrom_eq_ok.2 ⟨operator, literal, rfl, hrule⟩
  error_append h he us := by
    rw [run_conditionFrom_eq_error] at h ⊢
    cases h with
    | noOperator => exact absurd rfl he
    | notOperator hop => exact .notOperator hop
    | noLiteral _ => exact absurd rfl he
    | notLiteral hop hlit => exact .notLiteral hop hlit
    | mismatch hop hlit h => exact .mismatch hop hlit h

section

variable {separator : TokenKind} {join : Filter → Filter → Filter} {item : FilterReader}

theorem Loops.ok_append (hitem : Steady item) {left f : Filter} {ts rest : List Token} {t : Token}
    (h : Loops separator join item left ts (.ok (f, t :: rest))) (us : List Token) :
    Loops separator join item left (ts ++ us) (.ok (f, t :: (rest ++ us))) := by
  generalize hr : Except.ok (f, t :: rest) = r at h
  induction h with
  | stop hnext =>
    cases hr
    exact .stop hnext
  | fail => cases hr
  | @more left right u ts mid r hu hrun hloop ih =>
    cases mid with
    | nil =>
      cases hloop
      cases hr
    | cons v mid => exact .more hu (hitem.ok_append hrun us) (ih hr)

theorem Loops.error_append (hitem : Steady item) {left : Filter} {ts : List Token} {e : ParseError}
    (h : Loops separator join item left ts (.error e)) (he : e.span ≠ none) (us : List Token) :
    Loops separator join item left (ts ++ us) (.error e) := by
  generalize hr : Except.error e = r at h
  induction h with
  | stop => cases hr
  | fail hu hrun =>
    cases hr
    exact .fail hu (hitem.error_append hrun he us)
  | @more left right u ts mid r hu hrun hloop ih =>
    cases mid with
    | nil =>
      cases hloop
      cases hr
    | cons v mid => exact .more hu (hitem.ok_append hrun us) (ih hr)

/-- A chain of steady items is steady: the loop has seen the token that ends it. -/
theorem chain_steady (hitem : Steady item) : Steady (chain separator join item) where
  ok_append h us := by
    rw [run_chain] at h ⊢
    obtain ⟨⟨left, mid⟩, hleft, hloop⟩ := Outcome.bind_eq_ok.1 h
    cases mid with
    | nil =>
      rw [runChainFrom_nil] at hloop
      cases hloop
    | cons v mid =>
      rw [hitem.ok_append hleft us]
      exact runChainFrom_eq_iff.2 ((runChainFrom_eq_iff.1 hloop).ok_append hitem us)
  error_append h he us := by
    rw [run_chain] at h ⊢
    rcases Outcome.bind_eq_error.1 h with h | ⟨⟨left, mid⟩, hleft, hloop⟩
    · rw [hitem.error_append h he us]
      rfl
    · cases mid with
      | nil =>
        rw [runChainFrom_nil] at hloop
        cases hloop
      | cons v mid =>
        rw [hitem.ok_append hleft us]
        exact runChainFrom_eq_iff.2 ((runChainFrom_eq_iff.1 hloop).error_append hitem he us)

theorem disjunctionOf_steady (hitem : Steady item) : Steady (disjunctionOf item) :=
  chain_steady (chain_steady hitem)

theorem groupOf_steady (hitem : Steady item) : Steady (groupOf item) where
  ok_append h us := by
    rw [run_groupOf] at h ⊢
    obtain ⟨⟨f, rest⟩, hread, hend⟩ := Outcome.bind_eq_ok.1 h
    cases rest with
    | nil => cases hend
    | cons t rest =>
      rw [(disjunctionOf_steady hitem).ok_append hread us]
      simp only at hend
      split at hend <;> cases hend
      next ht => exact if_pos ht
  error_append h he us := by
    rw [run_groupOf] at h ⊢
    rcases Outcome.bind_eq_error.1 h with h | ⟨⟨f, rest⟩, hread, hend⟩
    · rw [(disjunctionOf_steady hitem).error_append h he us]
      rfl
    · cases rest with
      | nil =>
        cases hend
        exact absurd rfl he
      | cons t rest =>
        rw [(disjunctionOf_steady hitem).ok_append hread us]
        simp only at hend
        split at hend <;> cases hend
        next ht => exact if_neg ht

theorem negationOf_steady (hitem : Steady item) : Steady (negationOf item) where
  ok_append h us := by
    rw [run_negationOf] at h ⊢
    obtain ⟨⟨f, rest⟩, hread, heq⟩ := Outcome.map_eq_ok.1 h
    cases heq
    rw [hitem.ok_append hread us]
    rfl
  error_append h he us := by
    rw [run_negationOf, Outcome.map_eq_error] at h ⊢
    exact hitem.error_append h he us

end

theorem Begins.steady {depth : Nat} (ih : ∀ d < depth, Steady (operand d)) {t : Token}
    {reader : FilterReader} (h : Begins depth t reader) : Steady reader := by
  cases h with
  | not => exact negationOf_steady (ih _ (Nat.lt_succ_self _))
  | group => exact groupOf_steady (ih _ (Nat.lt_succ_self _))
  | condition => exact conditionFrom_steady _ _

theorem operand_steady (depth : Nat) : Steady (operand depth) := by
  induction depth using Nat.strongRecOn with
  | ind depth ih =>
    constructor
    · intro ts rest f t h us
      generalize hr : Except.ok (f, t :: rest) = r at h
      cases run_operand_eq_iff.1 h with
      | nil => cases hr
      | tooDeep => cases hr
      | begins hbegins =>
        rw [← (hbegins.steady ih).ok_append hr.symm us]
        exact run_operand_eq_iff.2 (.begins hbegins)
      | other => cases hr
    · intro ts e h he us
      generalize hr : Except.error e = r at h
      cases run_operand_eq_iff.1 h with
      | nil =>
        cases hr
        exact absurd rfl he
      | tooDeep hdepth ht =>
        cases hr
        exact run_operand_eq_iff.2 (.tooDeep hdepth ht)
      | begins hbegins =>
        rw [← hr, ← (hbegins.steady ih).error_append hr.symm he us]
        exact run_operand_eq_iff.2 (.begins hbegins)
      | other hnot hlparen hpath =>
        cases hr
        exact run_operand_eq_iff.2 (.other hnot hlparen hpath)

/-! ### Where the errors are -/

/-- The span begins with one of the tokens and ends with the same one or a later one. -/
def Between (ts : List Token) (span : Span) : Prop :=
  ∃ before t behind u, ts = before ++ t :: behind ∧ u ∈ t :: behind ∧
    span = ⟨t.span.start, u.span.stop⟩

/-- What is refused is one of the tokens, or some that stand side by side. -/
def Locates (item : FilterReader) : Prop :=
  ∀ (ts : List Token) (e : ParseError) (span : Span), item.run ts = .error e →
    e.span = some span → Between ts span

namespace Between

variable {span : Span} {ts : List Token}

theorem head (t : Token) (ts : List Token) : Between (t :: ts) t.span :=
  ⟨[], t, ts, t, rfl, List.mem_cons_self .., rfl⟩

theorem append_left (h : Between ts span) (us : List Token) : Between (us ++ ts) span := by
  obtain ⟨before, t, behind, u, rfl, hu, hspan⟩ := h
  exact ⟨us ++ before, t, behind, u, (List.append_assoc ..).symm, hu, hspan⟩

theorem cons (h : Between ts span) (t : Token) : Between (t :: ts) span := h.append_left [t]

end Between

/-- An error in a condition is at its operator, at its literal, or at the whole of it. -/
theorem conditionFrom_between {path : FieldPath} {t : Token} {ts : List Token} {e : ParseError}
    {span : Span} (h : FilterReader.run (conditionFrom path t.span) ts = .error e)
    (he : e.span = some span) : Between (t :: ts) span := by
  cases run_conditionFrom_eq_error.1 h with
  | noOperator => cases he
  | notOperator _ =>
    cases he
    exact (Between.head _ _).cons t
  | noLiteral _ => cases he
  | notLiteral _ _ =>
    cases he
    exact ((Between.head _ _).cons _).cons t
  | @mismatch operator literal ts _ _ _ _ _ h =>
    rcases condition_error_span h with h | h <;> obtain rfl := Option.some.inj (he.symm.trans h)
    · exact (Between.head _ _).cons t
    · exact ⟨[], t, operator :: literal :: ts, literal, rfl, by simp, rfl⟩

section

variable {separator : TokenKind} {join : Filter → Filter → Filter} {item : FilterReader}
  {Item : List Token → Filter → Nat → Prop} {depth : Nat}

theorem Loops.between (hsound : Sound item Item depth) (hitem : Locates item) {left : Filter}
    {ts : List Token} {e : ParseError} {span : Span}
    (h : Loops separator join item left ts (.error e)) (he : e.span = some span) :
    Between ts span := by
  generalize hr : Except.error e = r at h
  induction h with
  | stop => cases hr
  | fail _ hrun =>
    cases hr
    exact (hitem _ e span hrun he).cons _
  | @more left right u ts mid r _ hrun _ ih =>
    obtain ⟨read, n, rfl, -, -⟩ := hsound _ right mid hrun
    exact ((ih hr).append_left read).cons u

theorem chain_locates (hsound : Sound item Item depth) (hitem : Locates item) :
    Locates (chain separator join item) := by
  intro ts e span h he
  rw [run_chain] at h
  rcases Outcome.bind_eq_error.1 h with h | ⟨⟨left, mid⟩, hleft, hloop⟩
  · exact hitem ts e span h he
  · obtain ⟨read, n, rfl, -, -⟩ := hsound ts left mid hleft
    exact ((runChainFrom_eq_iff.1 hloop).between hsound hitem he).append_left read

end

theorem groupOf_locates {item : FilterReader} {depth : Nat} (hsound : Sound item Operand depth)
    (hitem : Locates item) : Locates (groupOf item) := by
  intro ts e span h he
  rw [run_groupOf] at h
  rcases Outcome.bind_eq_error.1 h with h | ⟨⟨f, rest⟩, hread, hend⟩
  · exact chain_locates (chain_sound hsound) (chain_locates hsound hitem) ts e span h he
  · obtain ⟨read, n, rfl, -, -⟩ := disjunctionOf_sound hsound ts f rest hread
    cases rest with
    | nil =>
      cases hend
      cases he
    | cons t rest =>
      simp only at hend
      split at hend <;> cases hend
      cases he
      exact (Between.head t rest).append_left read

theorem operand_locates (depth : Nat) : Locates (operand depth) := by
  induction depth using Nat.strongRecOn with
  | ind depth ih =>
    intro ts e span h he
    generalize hr : Except.error e = r at h
    cases run_operand_eq_iff.1 h with
    | nil =>
      cases hr
      cases he
    | tooDeep =>
      cases hr
      cases he
      exact .head _ _
    | @begins t ts reader hbegins =>
      cases hbegins with
      | @not depth t ht =>
        rw [run_negationOf] at hr
        exact (ih depth (Nat.lt_succ_self _) ts e span (Outcome.map_eq_error.1 hr.symm) he).cons t
      | @group depth t ht =>
        exact (groupOf_locates (operand_sound depth) (ih depth (Nat.lt_succ_self _)) ts e span
          hr.symm he).cons t
      | condition ht => exact conditionFrom_between hr.symm he
    | other =>
      cases hr
      cases he
      exact .head _ _

/-! ### Whole filters -/

/-- Tokens that end too early are the beginning of a filter. -/
theorem parseTokens_completes {ts : List Token} {e : ParseError} (h : parseTokens ts = .error e)
    (he : e.span = none) : ∃ us f, parseTokens (ts ++ us) = .ok f := by
  rw [parseTokens_eq] at h
  rcases Outcome.bind_eq_error.1 h with h | ⟨⟨f, rest⟩, hread, hend⟩
  · have hdisjunction : Completes (disjunction maxDepth) Disjunction maxDepth :=
      chain_completes (chain_sound (operand_sound maxDepth))
        (chain_completes (operand_sound maxDepth) (operand_completes maxDepth))
    obtain ⟨us, f, n, hus, hn⟩ := hdisjunction ts e h he
    exact ⟨us, f, parseTokens_eq_ok.2 ⟨n, hus, hn⟩⟩
  · cases rest with
    | nil => cases hend
    | cons t rest =>
      cases hend
      cases he

/-- No token that follows mends an error at a token. -/
theorem parseTokens_error_append {ts : List Token} {e : ParseError}
    (h : parseTokens ts = .error e) (he : e.span ≠ none) (us : List Token) :
    parseTokens (ts ++ us) = .error e := by
  have hsteady : Steady (disjunction maxDepth) := disjunctionOf_steady (operand_steady maxDepth)
  rw [parseTokens_eq] at h ⊢
  rcases Outcome.bind_eq_error.1 h with h | ⟨⟨f, rest⟩, hread, hend⟩
  · rw [hsteady.error_append h he us]
    rfl
  · cases rest with
    | nil => cases hend
    | cons t rest =>
      rw [hsteady.ok_append hread us]
      exact hend

/-- The span of an error goes from a token to the same or a later one. -/
theorem between_of_parseTokens {ts : List Token} {e : ParseError} {span : Span}
    (h : parseTokens ts = .error e) (he : e.span = some span) : Between ts span := by
  have hsound : Sound (disjunction maxDepth) Disjunction maxDepth :=
    disjunctionOf_sound (operand_sound maxDepth)
  have hlocates : Locates (disjunction maxDepth) :=
    chain_locates (chain_sound (operand_sound maxDepth))
      (chain_locates (operand_sound maxDepth) (operand_locates maxDepth))
  rw [parseTokens_eq] at h
  rcases Outcome.bind_eq_error.1 h with h | ⟨⟨f, rest⟩, hread, hend⟩
  · exact hlocates ts e span h he
  · obtain ⟨read, n, rfl, -, -⟩ := hsound ts f rest hread
    cases rest with
    | nil => cases hend
    | cons t rest =>
      cases hend
      cases he
      exact (Between.head t rest).append_left read

/-- A span from a token of a text to the same or a later one lies within the text. -/
theorem Between.within {input : String} {span : Span} (h : Between (lex input) span) :
    span.Within input := by
  obtain ⟨before, t, behind, u, hts, hu, rfl⟩ := h
  have hmem : ∀ v ∈ t :: behind, v.span.Within input := fun v hv => by
    refine within_of_mem_lex ?_
    rw [hts]
    exact List.mem_append_right before hv
  have ht := hmem t (List.mem_cons_self ..)
  refine ⟨?_, (hmem u hu).stop_le, ht.isValid_start, (hmem u hu).isValid_stop⟩
  have hpairwise := pairwise_lex input
  rw [hts] at hpairwise
  have hlater : ∀ v ∈ behind, t.span.start < v.span.start := fun v hv =>
    (List.rel_of_pairwise_cons (List.pairwise_append.1 hpairwise).2.1 hv).1
  rcases List.mem_cons.1 hu with rfl | hu
  · exact ht.start_lt_stop
  · exact Nat.lt_trans (hlater u hu) (hmem u (List.mem_cons_of_mem _ hu)).start_lt_stop

/-- **An error tells a filter that is cut off from one that is wrong.** Without a span, the
tokens are the beginning of a filter. With a span they are not, and whatever follows them the
error is the same, with the same message and the same span. In a text the span is that of a
token, or goes on to a later one: it is not empty, lies within the text and begins and ends
between two characters. -/
theorem parse_error_classified :
    (∀ ts e, parseTokens ts = .error e →
      (e.span = none → ∃ us f, parseTokens (ts ++ us) = .ok f) ∧
      (∀ span, e.span = some span → ∀ us, parseTokens (ts ++ us) = .error e)) ∧
    (∀ input e span, parseFilter input = .error e → e.span = some span →
      (∃ before t behind u, lex input = before ++ t :: behind ∧ u ∈ t :: behind ∧
        span = ⟨t.span.start, u.span.stop⟩) ∧ span.Within input) := by
  refine ⟨fun ts e h => ⟨parseTokens_completes h, fun span he us => ?_⟩, ?_⟩
  · exact parseTokens_error_append h (by simp [he]) us
  · intro input e span h he
    have hbetween : Between (lex input) span := between_of_parseTokens h he
    exact ⟨hbetween, hbetween.within⟩

/-- A group and a negation that are cut off are completed; an order operator in front of `null`
is refused whatever follows, with a span over the whole condition, bytes and not characters. -/
theorem parse_error_classified_cut_off_and_wrong :
    (∃ us f, parseTokens (lex "not (größe >" ++ us) = .ok f) ∧
    (∀ us, parseTokens (lex "größe > null" ++ us) =
      .error (.orderNeedsNumber ⟨["größe"]⟩ ⟨0, 14⟩)) ∧
    Span.Within "größe > null" ⟨0, 14⟩ := by
  have hcut : parseTokens (lex "not (größe >") = .error (.incomplete .literal) := by
    decide +kernel
  have hwrong : parseFilter "größe > null" =
      .error (.orderNeedsNumber ⟨["größe"]⟩ ⟨0, 14⟩) := by decide +kernel
  exact ⟨(parse_error_classified.1 _ _ hcut).1 rfl,
    (parse_error_classified.1 _ _ hwrong).2 _ rfl,
    (parse_error_classified.2 _ _ _ hwrong rfl).2⟩

end RequestSql
