import RequestSql.Proofs.Filter.Grammar

/-!
# How the filter readers run

What a loop, a condition and an operand do, as rules: the loop of a chain stops, fails in an
item or goes on behind it; a condition fails at its operator, at its literal or as a whole;
an operand is handed by its first token to the reader of what that token begins. The readers
follow these rules and no others, so what is proved about them is a case analysis on the
rules, and about a loop an induction.

Key definitions: `Loops`, `ConditionFault`, `Begins`, `OperandRun`.
Key theorems: `runChainFrom_eq_iff`, `run_conditionFrom_eq_error`, `run_operand_eq_iff`.
-/

namespace RequestSql

/-! ### Chains -/

/-- How the loop of a chain goes on from the filter to the left of it. -/
inductive Loops (separator : TokenKind) (join : Filter → Filter → Filter) (item : FilterReader) :
    Filter → List Token → Except ParseError (Filter × List Token) → Prop
  | stop {left : Filter} {ts : List Token} :
      NotNext separator ts → Loops separator join item left ts (.ok (left, ts))
  | fail {left : Filter} {t : Token} {ts : List Token} {e : ParseError} : t.kind = separator →
      item.run ts = .error e → Loops separator join item left (t :: ts) (.error e)
  | more {left right : Filter} {t : Token} {ts rest : List Token}
      {r : Except ParseError (Filter × List Token)} : t.kind = separator →
        item.run ts = .ok (right, rest) → Loops separator join item (join left right) rest r →
          Loops separator join item left (t :: ts) r

section

variable {separator : TokenKind} {join : Filter → Filter → Filter} {item : FilterReader}

theorem loops_runChainFrom : ∀ (k : Nat) (ts : List Token), ts.length ≤ k → ∀ left : Filter,
    Loops separator join item left ts (runChainFrom separator join item left ts)
  | k, [], _, left => by
    rw [runChainFrom_nil]
    exact .stop fun t ht => by cases ht
  | 0, t :: ts, hk, _ => absurd hk (Nat.not_succ_le_zero _)
  | k + 1, t :: ts, hk, left => by
    rw [runChainFrom_cons]
    split
    · next ht =>
      cases hrun : item.run ts with
      | error e => exact .fail ht hrun
      | ok r =>
        have hrest : r.2.length ≤ k := by
          have := FilterReader.run_shorter hrun
          simp only [List.length_cons] at hk
          omega
        exact .more ht hrun (loops_runChainFrom k r.2 hrest (join left r.1))
    · next ht =>
      refine .stop fun u hu => ?_
      obtain rfl := Option.some.inj hu
      exact ht

/-- The loop follows the rules. -/
theorem runChainFrom_eq_iff {left : Filter} {ts : List Token}
    {r : Except ParseError (Filter × List Token)} :
    runChainFrom separator join item left ts = r ↔ Loops separator join item left ts r := by
  constructor
  · rintro rfl
    exact loops_runChainFrom ts.length ts (Nat.le_refl _) left
  · intro h
    induction h with
    | stop hnext => exact runChainFrom_of_notNext hnext _
    | fail ht hrun =>
      rw [runChainFrom_cons, if_pos ht, hrun]
      rfl
    | more ht hrun _ ih =>
      rw [runChainFrom_cons, if_pos ht, hrun]
      exact ih

end

/-! ### Conditions -/

/-- What may be wrong with a condition behind its path. -/
inductive ConditionFault (path : FieldPath) (pathSpan : Span) : List Token → ParseError → Prop
  | noOperator : ConditionFault path pathSpan [] (.incomplete .operator)
  | notOperator {operator : Token} {ts : List Token} : operator.kind.comparison? = none →
      ConditionFault path pathSpan (operator :: ts) (.unexpected .operator operator)
  | noLiteral {operator : Token} {comparison : Comparison} :
      operator.kind.comparison? = some comparison →
        ConditionFault path pathSpan [operator] (.incomplete .literal)
  | notLiteral {operator literal : Token} {ts : List Token} {comparison : Comparison} :
      operator.kind.comparison? = some comparison → literal.kind.literal? = none →
        ConditionFault path pathSpan (operator :: literal :: ts) (.unexpected .literal literal)
  | mismatch {operator literal : Token} {ts : List Token} {comparison : Comparison}
      {value : Literal} {e : ParseError} : operator.kind.comparison? = some comparison →
        literal.kind.literal? = some value →
          condition path operator.span ⟨pathSpan.start, literal.span.stop⟩ comparison value =
            .error e →
              ConditionFault path pathSpan (operator :: literal :: ts) e

/-- The reader of conditions fails as the rules say. -/
theorem run_conditionFrom_eq_error {path : FieldPath} {pathSpan : Span} {ts : List Token}
    {e : ParseError} :
    FilterReader.run (conditionFrom path pathSpan) ts = .error e ↔
      ConditionFault path pathSpan ts e := by
  rw [run_conditionFrom]
  constructor
  · intro h
    split at h
    · cases h
      exact .noOperator
    · next operator ts =>
      split at h
      · next hop =>
        cases h
        exact .notOperator hop
      · next comparison hop =>
        split at h
        · cases h
          exact .noLiteral hop
        · next literal rest =>
          split at h
          · next hlit =>
            cases h
            exact .notLiteral hop hlit
          · next value hlit => exact .mismatch hop hlit (Outcome.map_eq_error.1 h)
  · intro h
    cases h with
    | noOperator => rfl
    | notOperator hop => simp only [hop]
    | noLiteral hop => simp only [hop]
    | notLiteral hop hlit => simp only [hop, hlit]
    | mismatch hop hlit h =>
      simp only [hop, hlit]
      rw [h]
      rfl

/-! ### Operands -/

/-- The token begins an operand, and the reader goes on with it. -/
inductive Begins : Nat → Token → FilterReader → Prop
  | not {depth : Nat} {t : Token} :
      t.kind = .not → Begins (depth + 1) t (negationOf (operand depth))
  | group {depth : Nat} {t : Token} :
      t.kind = .lparen → Begins (depth + 1) t (groupOf (operand depth))
  | condition {depth : Nat} {t : Token} {path : String} :
      t.kind = .identifier path → Begins depth t (conditionFrom (.ofDotted path) t.span)

/-- How an operand is read, by its first token. -/
inductive OperandRun (depth : Nat) :
    List Token → Except ParseError (Filter × List Token) → Prop
  | nil : OperandRun depth [] (.error (.incomplete .operand))
  | tooDeep {t : Token} {ts : List Token} : depth = 0 → t.kind = .not ∨ t.kind = .lparen →
      OperandRun depth (t :: ts) (.error (.tooDeep t.span))
  | begins {t : Token} {ts : List Token} {reader : FilterReader} : Begins depth t reader →
      OperandRun depth (t :: ts) (reader.run ts)
  | other {t : Token} {ts : List Token} : t.kind ≠ .not → t.kind ≠ .lparen →
      (∀ path, t.kind ≠ .identifier path) →
        OperandRun depth (t :: ts) (.error (.unexpected .operand t))

/-- Operands are read as the rules say. -/
theorem run_operand_eq_iff {depth : Nat} {ts : List Token}
    {r : Except ParseError (Filter × List Token)} :
    (operand depth).run ts = r ↔ OperandRun depth ts r := by
  constructor
  · rintro rfl
    cases ts with
    | nil =>
      rw [run_operand_nil]
      exact .nil
    | cons t ts =>
      by_cases hnot : t.kind = .not
      · rw [run_operand_not depth hnot]
        cases depth with
        | zero => exact .tooDeep rfl (.inl hnot)
        | succ depth =>
          simp only [← run_negationOf]
          exact .begins (.not hnot)
      · by_cases hlparen : t.kind = .lparen
        · rw [run_operand_lparen depth hlparen]
          cases depth with
          | zero => exact .tooDeep rfl (.inr hlparen)
          | succ depth => exact .begins (.group hlparen)
        · by_cases hpath : ∃ path, t.kind = .identifier path
          · obtain ⟨path, hpath⟩ := hpath
            rw [run_operand_identifier depth hpath]
            exact .begins (.condition hpath)
          · have hpath : ∀ path, t.kind ≠ .identifier path := fun path h => hpath ⟨path, h⟩
            rw [run_operand_other depth hnot hlparen hpath]
            exact .other hnot hlparen hpath
  · intro h
    cases h with
    | nil => exact run_operand_nil depth
    | tooDeep hdepth ht =>
      subst hdepth
      rcases ht with ht | ht
      · rw [run_operand_not 0 ht]
      · rw [run_operand_lparen 0 ht]
    | begins hbegins =>
      cases hbegins with
      | not ht => rw [run_operand_not _ ht, run_negationOf]
      | group ht => rw [run_operand_lparen _ ht]
      | condition ht => rw [run_operand_identifier _ ht]
    | other hnot hlparen hpath => exact run_operand_other depth hnot hlparen hpath _

end RequestSql
