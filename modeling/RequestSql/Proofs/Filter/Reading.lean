import RequestSql.Filter.Parser

/-!
# What the filter readers do, without their proofs

A reader gives back what it read together with the proof that it used something up. Here
the proofs are dropped: `FilterReader.run` is the plain result, and every reader has one
equation that says what it runs and in which order. All that is proved about reading
goes through these equations.

Key definitions: `FilterReader.run`, `runChainFrom`.
Key theorems: `run_chain`, `runChainFrom_cons`, `run_operand_not`, `run_operand_lparen`,
`run_operand_identifier`, `parseTokens_eq`.
-/

namespace RequestSql

/-- What a reader gives back, without the proof that it used something up. -/
def FilterReader.run (item : FilterReader) (ts : List Token) :
    Except ParseError (Filter × List Token) :=
  (item ts).map Subtype.val

theorem FilterReader.run_shorter {item : FilterReader} {ts rest : List Token} {f : Filter}
    (h : item.run ts = .ok (f, rest)) : rest.length < ts.length := by
  unfold FilterReader.run at h
  cases hitem : item ts with
  | error e => rw [hitem] at h; cases h
  | ok r =>
    rw [hitem] at h
    have hr : r.val = (f, rest) := Except.ok.inj h
    have := r.property
    rwa [hr] at this

/-- What the loop of a chain gives back, without the proof that it made nothing up. -/
def runChainFrom (separator : TokenKind) (join : Filter → Filter → Filter)
    (item : FilterReader) (left : Filter) (ts : List Token) :
    Except ParseError (Filter × List Token) :=
  (chainFrom separator join item left ts).map Subtype.val

section

variable (separator : TokenKind) (join : Filter → Filter → Filter) (item : FilterReader)

/-! ### Chains -/

theorem runChainFrom_nil (left : Filter) :
    runChainFrom separator join item left [] = .ok (left, []) := by
  unfold runChainFrom
  rw [chainFrom]
  rfl

/-- The loop reads an item after a separator, joins it and goes on; any other token ends
it. -/
theorem runChainFrom_cons (left : Filter) (t : Token) (ts : List Token) :
    runChainFrom separator join item left (t :: ts) =
      if t.kind = separator then
        item.run ts >>= fun r => runChainFrom separator join item (join left r.1) r.2
      else .ok (left, t :: ts) := by
  unfold runChainFrom FilterReader.run
  rw [chainFrom]
  split
  · cases item ts with
    | error e => rfl
    | ok r =>
      obtain ⟨⟨right, rest⟩, shorter⟩ := r
      simp only [Except.map, bind, Except.bind]
      cases chainFrom separator join item (join left right) rest <;> rfl
  · rfl

/-- A chain is an item and then the loop. -/
theorem run_chain (ts : List Token) :
    (chain separator join item).run ts =
      item.run ts >>= fun r => runChainFrom separator join item r.1 r.2 := by
  unfold FilterReader.run runChainFrom chain
  cases item ts with
  | error e => rfl
  | ok r =>
    obtain ⟨⟨left, rest⟩, shorter⟩ := r
    simp only [Except.map, bind, Except.bind]
    cases chainFrom separator join item left rest <;> rfl

end

/-! ### Operands -/

theorem run_negationOf (item : FilterReader) (ts : List Token) :
    FilterReader.run (negationOf item) ts =
      (item.run ts).map fun r => (r.1.negate, r.2) := by
  unfold FilterReader.run negationOf
  cases item ts <;> rfl

/-- A group is what its parentheses enclose, and the closing one has to come. -/
theorem run_groupOf (item : FilterReader) (ts : List Token) :
    FilterReader.run (groupOf item) ts =
      (disjunctionOf item).run ts >>= fun r =>
        match r.2 with
        | [] => .error (.incomplete .closing)
        | t :: rest =>
          if t.kind = .rparen then .ok (r.1, rest) else .error (.unexpected .closing t) := by
  unfold FilterReader.run groupOf
  cases disjunctionOf item ts with
  | error e => rfl
  | ok r =>
    obtain ⟨⟨filter, rest⟩, shorter⟩ := r
    cases rest with
    | nil => rfl
    | cons t rest =>
      simp only [Except.map, bind, Except.bind]
      by_cases h : t.kind = .rparen
      · rw [if_pos h, if_pos h]
      · rw [if_neg h, if_neg h]

theorem map_afterToken {t : Token} {ts : List Token} (r : Except ParseError (Reading ts)) :
    (afterToken r : Except ParseError (Reading (t :: ts))).map Subtype.val =
      r.map Subtype.val := by
  cases r <;> rfl

theorem run_operand_nil (depth : Nat) :
    (operand depth).run [] = .error (.incomplete .operand) := by
  unfold FilterReader.run
  rw [operand]
  rfl

/-- A negation takes one level off what may still be nested in its operand. -/
theorem run_operand_not (depth : Nat) {t : Token} (h : t.kind = .not) (ts : List Token) :
    (operand depth).run (t :: ts) =
      match depth with
      | 0 => .error (.tooDeep t.span)
      | depth + 1 => ((operand depth).run ts).map fun r => (r.1.negate, r.2) := by
  cases depth with
  | zero => simp [FilterReader.run, operand, h, Except.map]
  | succ depth =>
    simp only [FilterReader.run, operand, h, map_afterToken]
    exact run_negationOf (operand depth) ts

/-- A group takes one level off what may still be nested in it. -/
theorem run_operand_lparen (depth : Nat) {t : Token} (h : t.kind = .lparen)
    (ts : List Token) :
    (operand depth).run (t :: ts) =
      match depth with
      | 0 => .error (.tooDeep t.span)
      | depth + 1 => FilterReader.run (groupOf (operand depth)) ts := by
  cases depth with
  | zero => simp [FilterReader.run, operand, h, Except.map]
  | succ depth => simp only [FilterReader.run, operand, h, map_afterToken]

theorem run_operand_identifier (depth : Nat) {t : Token} {path : String}
    (h : t.kind = .identifier path) (ts : List Token) :
    (operand depth).run (t :: ts) =
      FilterReader.run (conditionFrom (.ofDotted path) t.span) ts := by
  cases depth <;> simp only [FilterReader.run, operand, h, map_afterToken]

/-- No other token begins an operand. -/
theorem run_operand_other (depth : Nat) {t : Token} (hnot : t.kind ≠ .not)
    (hlparen : t.kind ≠ .lparen) (hpath : ∀ path, t.kind ≠ .identifier path)
    (ts : List Token) :
    (operand depth).run (t :: ts) = .error (.unexpected .operand t) := by
  unfold FilterReader.run operand
  split <;> simp_all [Except.map]

/-- What a condition is made of once its operator and its literal are there. -/
theorem run_conditionFrom (path : FieldPath) (pathSpan : Span) (ts : List Token) :
    FilterReader.run (conditionFrom path pathSpan) ts =
      match ts with
      | [] => .error (.incomplete .operator)
      | operator :: ts =>
        match operator.kind.comparison? with
        | none => .error (.unexpected .operator operator)
        | some comparison =>
          match ts with
          | [] => .error (.incomplete .literal)
          | literal :: rest =>
            match literal.kind.literal? with
            | none => .error (.unexpected .literal literal)
            | some value =>
              (condition path operator.span ⟨pathSpan.start, literal.span.stop⟩ comparison
                value).map (·, rest) := by
  unfold FilterReader.run
  cases ts with
  | nil => rfl
  | cons operator ts =>
    simp only [conditionFrom]
    cases operator.kind.comparison? with
    | none => rfl
    | some comparison =>
      cases ts with
      | nil => rfl
      | cons literal rest =>
        simp only
        cases literal.kind.literal? with
        | none => rfl
        | some value =>
          simp only
          cases condition path operator.span ⟨pathSpan.start, literal.span.stop⟩ comparison
            value <;> rfl

/-! ### Whole filters -/

/-- A list of tokens is a filter if one is read from it and nothing is left. -/
theorem parseTokens_eq (ts : List Token) :
    parseTokens ts =
      (disjunction maxDepth).run ts >>= fun r =>
        match r.2 with
        | [] => .ok r.1
        | t :: _ => .error (.trailing t) := by
  unfold parseTokens FilterReader.run
  cases disjunction maxDepth ts with
  | error e => rfl
  | ok r =>
    obtain ⟨⟨filter, rest⟩, shorter⟩ := r
    cases rest <;> rfl

end RequestSql
