import RequestSql.Proofs.Filter.Runs

/-!
# Tokens in other places

The readers look at the kinds of the tokens and never at their spans. So tokens that stand in
other places are the same filter, or are refused by the same message, and only the span of the
error goes with the tokens. Where a token begins and where it ends may change independently of
each other; a span that goes over several tokens has the beginning of one and the end of another.

The readers are taken in their order, from conditions up to whole filters: each `Moves` what it
gives back with what it is given, a chain because its items do, by induction on its loop, and an
operand because the operands one level below do.

Key definitions: `Token.move`, `ParseError.move`, `Moves`.
Key theorems: `ParseError.message_move`, `ParseError.span_move`, `operand_moves`,
`parseTokens_move`.
-/

namespace RequestSql

/-- The span between the places that its two ends are moved to. -/
def Span.move (start stop : Nat → Nat) (span : Span) : Span := ⟨start span.start, stop span.stop⟩

/-- The same token between other places. -/
def Token.move (start stop : Nat → Nat) (t : Token) : Token := ⟨t.kind, t.span.move start stop⟩

section

variable {start stop : Nat → Nat}

/-! ### Errors in other places -/

namespace ParseError

/-- The same error about tokens in other places. -/
def move (start stop : Nat → Nat) : ParseError → ParseError
  | incomplete expected => incomplete expected
  | unexpected expected found => unexpected expected (found.move start stop)
  | trailing found => trailing (found.move start stop)
  | tooDeep span => tooDeep (span.move start stop)
  | matchNeedsText path span => matchNeedsText path (span.move start stop)
  | orderNeedsNumber path span => orderNeedsNumber path (span.move start stop)

/-- The message does not say where the error is. -/
theorem message_move (e : ParseError) : (e.move start stop).message = e.message := by
  cases e with
  | unexpected expected => cases expected <;> rfl
  | incomplete => rfl
  | trailing => rfl
  | tooDeep => rfl
  | matchNeedsText => rfl
  | orderNeedsNumber => rfl

/-- The span of the error is moved, if it has one. -/
theorem span_move (e : ParseError) :
    (e.move start stop).span = e.span.map (Span.move start stop) := by
  cases e <;> rfl

end ParseError

/-! ### Readers -/

/-- What a reader gives back, about tokens in other places. -/
def moved (start stop : Nat → Nat) :
    Except ParseError (Filter × List Token) → Except ParseError (Filter × List Token)
  | .error e => .error (e.move start stop)
  | .ok (f, rest) => .ok (f, rest.map (Token.move start stop))

theorem moved_map (r : Except ParseError (Filter × List Token)) (change : Filter → Filter) :
    moved start stop (r.map fun r => (change r.1, r.2)) =
      (moved start stop r).map fun r => (change r.1, r.2) := by
  cases r <;> rfl

/-- Two steps are moved if the second one is, whatever the first one left. -/
theorem moved_bind {r : Except ParseError (Filter × List Token)}
    {next : Filter × List Token → Except ParseError (Filter × List Token)}
    (h : ∀ f rest, next (f, rest.map (Token.move start stop)) =
      moved start stop (next (f, rest))) :
    moved start stop r >>= next = moved start stop (r >>= next) := by
  cases r with
  | error e => rfl
  | ok r => exact h r.1 r.2

/-- Where the tokens stand makes a difference only to where the reader says they are. -/
def Moves (start stop : Nat → Nat) (item : FilterReader) : Prop :=
  ∀ ts, item.run (ts.map (Token.move start stop)) = moved start stop (item.run ts)

theorem condition_error_move {path : FieldPath} {operatorSpan span : Span}
    {comparison : Comparison} {value : Literal} {e : ParseError}
    (h : condition path operatorSpan span comparison value = .error e) :
    condition path (operatorSpan.move start stop) (span.move start stop) comparison value =
      .error (e.move start stop) := by
  unfold condition at h ⊢
  split at h <;> cases h <;> rfl

/-- A condition is moved with its path. -/
theorem run_conditionFrom_move (path : FieldPath) (pathSpan : Span) (ts : List Token) :
    FilterReader.run (conditionFrom path (pathSpan.move start stop))
        (ts.map (Token.move start stop)) =
      moved start stop (FilterReader.run (conditionFrom path pathSpan) ts) := by
  cases hrun : FilterReader.run (conditionFrom path pathSpan) ts with
  | ok r =>
    obtain ⟨operator, literal, rfl, hrule⟩ := run_conditionFrom_eq_ok.1 hrun
    exact run_conditionFrom_eq_ok.2 ⟨_, _, rfl, hrule⟩
  | error e =>
    rw [moved, run_conditionFrom_eq_error]
    cases run_conditionFrom_eq_error.1 hrun with
    | noOperator => exact .noOperator
    | notOperator hop => exact .notOperator hop
    | noLiteral hop => exact .noLiteral hop
    | notLiteral hop hlit => exact .notLiteral hop hlit
    | mismatch hop hlit h =>
      have hmoved : condition path (Span.move start stop _) (Span.move start stop _) _ _ =
        .error (e.move start stop) := condition_error_move h
      exact .mismatch hop hlit hmoved

section

variable {separator : TokenKind} {join : Filter → Filter → Filter} {item : FilterReader}

theorem Loops.move (hitem : Moves start stop item) {left : Filter} {ts : List Token}
    {r : Except ParseError (Filter × List Token)} (h : Loops separator join item left ts r) :
    Loops separator join item left (ts.map (Token.move start stop)) (moved start stop r) := by
  induction h with
  | @stop left ts hnext =>
    refine .stop fun t ht => ?_
    rw [List.head?_map] at ht
    obtain ⟨u, hu, rfl⟩ := Option.map_eq_some_iff.1 ht
    exact hnext u hu
  | fail ht hrun => exact .fail ht (by rw [hitem, hrun]; rfl)
  | more ht hrun _ ih => exact .more ht (by rw [hitem, hrun]; rfl) ih

theorem chain_moves (hitem : Moves start stop item) :
    Moves start stop (chain separator join item) := by
  intro ts
  rw [run_chain, run_chain, hitem ts]
  exact moved_bind fun left rest =>
    runChainFrom_eq_iff.2 ((runChainFrom_eq_iff.1 rfl).move hitem)

theorem disjunctionOf_moves (hitem : Moves start stop item) :
    Moves start stop (disjunctionOf item) :=
  chain_moves (chain_moves hitem)

theorem groupOf_moves (hitem : Moves start stop item) : Moves start stop (groupOf item) := by
  intro ts
  rw [run_groupOf, run_groupOf, disjunctionOf_moves hitem ts]
  refine moved_bind fun f rest => ?_
  cases rest with
  | nil => rfl
  | cons t rest =>
    by_cases ht : t.kind = .rparen
    · simp only [List.map_cons, Token.move, if_pos ht]
      rfl
    · simp only [List.map_cons, Token.move, if_neg ht]
      rfl

theorem negationOf_moves (hitem : Moves start stop item) : Moves start stop (negationOf item) := by
  intro ts
  rw [run_negationOf, run_negationOf, hitem ts, moved_map]

end

theorem operand_moves (depth : Nat) : Moves start stop (operand depth) := by
  induction depth using Nat.strongRecOn with
  | ind depth ih =>
    intro ts
    generalize hr : (operand depth).run ts = r
    rw [run_operand_eq_iff]
    cases run_operand_eq_iff.1 hr with
    | nil => exact .nil
    | tooDeep hdepth ht => exact .tooDeep hdepth ht
    | other hnot hlparen hpath => exact .other hnot hlparen hpath
    | @begins t ts reader hbegins =>
      cases hbegins with
      | @not depth t ht =>
        rw [← negationOf_moves (ih depth (Nat.lt_succ_self _)) ts]
        exact .begins (.not ht)
      | @group depth t ht =>
        rw [← groupOf_moves (ih depth (Nat.lt_succ_self _)) ts]
        exact .begins (.group ht)
      | condition ht =>
        rw [← run_conditionFrom_move]
        exact .begins (.condition (t := t.move start stop) ht)

/-! ### Whole filters -/

/-- **Tokens in other places are the same filter**, or the same error in other places. -/
theorem parseTokens_move (ts : List Token) :
    parseTokens (ts.map (Token.move start stop)) =
      (parseTokens ts).mapError (.move start stop) := by
  have hmoves : Moves start stop (disjunction maxDepth) :=
    disjunctionOf_moves (operand_moves maxDepth)
  rw [parseTokens_eq, parseTokens_eq, hmoves ts]
  cases (disjunction maxDepth).run ts with
  | error e => rfl
  | ok r =>
    obtain ⟨f, rest⟩ := r
    cases rest <;> rfl

end

end RequestSql
