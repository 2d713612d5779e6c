import RequestSql.Filter.Lexer
import RequestSql.Filter.Tree

/-!
# Reading filters

Filters are written with `or` binding loosest, then `and`, then `not`; parentheses
group, and a condition is a field path, an operator and a literal. Chains of `or` and of
`and` lean to the left. A group adds no node, and `not` flips the mark of the node it
stands before.

Every reader takes a list of tokens and gives back what it did not use, which is
shorter; this is why the loops end. Groups and negations use up a *depth*, of which
there are `maxDepth`, and `operand` recurses on what is left of it.

Key definitions: `ParseError`, `operand`, `disjunction`, `parseTokens`, `parseFilter`.
-/

namespace RequestSql

/-- What a reader wanted where it stopped. -/
inductive Expectation where
  /-- A field path, a group or a negation. -/
  | operand
  /-- A comparison operator. -/
  | operator
  /-- A text, a number or `null`. -/
  | literal
  /-- The end of a group. -/
  | closing
deriving DecidableEq, Repr

/-- Why a list of tokens is no filter. -/
inductive ParseError where
  /-- The tokens end too early. -/
  | incomplete (expected : Expectation)
  /-- Another token stands where something was wanted. -/
  | unexpected (expected : Expectation) (found : Token)
  /-- A token follows the filter. -/
  | trailing (found : Token)
  /-- A group or negation is nested too deeply. -/
  | tooDeep (span : Span)
  /-- A pattern operator stands before a literal that is no text. -/
  | matchNeedsText (path : FieldPath) (span : Span)
  /-- An order operator stands before a literal that is no number. -/
  | orderNeedsNumber (path : FieldPath) (span : Span)
deriving DecidableEq, Repr

namespace ParseError

/-- Where the error is; nowhere if the text only ends too early. -/
def span : ParseError → Option Span
  | incomplete _ => none
  | unexpected _ found => some found.span
  | trailing found => some found.span
  | tooDeep span => some span
  | matchNeedsText _ span => some span
  | orderNeedsNumber _ span => some span

/-- The text of the error. -/
def message : ParseError → String
  | incomplete .operand => "Unexpected end of input"
  | incomplete .operator => "Expected comparison operator"
  | incomplete .literal => "Expected literal value"
  | incomplete .closing => "Expected RParen, but reached end of input"
  | unexpected .operand found => "Expected field path or '(', found " ++ found.kind.listing
  | unexpected .operator found => "Expected comparison operator, found " ++ found.kind.listing
  | unexpected .literal found => "Expected literal value, found " ++ found.kind.listing
  | unexpected .closing found => "Expected RParen, found " ++ found.kind.listing
  | trailing found => "Unexpected token: " ++ found.kind.listing
  | tooDeep _ => "filter nesting too deep"
  | matchNeedsText path _ =>
    "Match operator on '" ++ path.toDotted ++ "' requires a string value"
  | orderNeedsNumber path _ =>
    "Comparison on '" ++ path.toDotted ++ "' requires a number value"

end ParseError

/-- How many groups and negations may enclose a token. -/
def maxDepth : Nat := 128

/-- A filter read from the front of some tokens, and the tokens after it. -/
abbrev Reading (ts : List Token) := { r : Filter × List Token // r.2.length < ts.length }

/-- What reads a filter from the front of a list of tokens. -/
abbrev FilterReader := (ts : List Token) → Except ParseError (Reading ts)

/-- A comparison operator; equality and matching have a negated form. -/
inductive Comparison where
  | eq (negated : Bool)
  | matching (negated : Bool)
  | order (op : NumberOp)
deriving DecidableEq, Repr

/-- The comparison that a token stands for. -/
def TokenKind.comparison? : TokenKind → Option Comparison
  | .eq => some (.eq false)
  | .notEq => some (.eq true)
  | .matching => some (.matching false)
  | .notMatching => some (.matching true)
  | .gt => some (.order .gt)
  | .ge => some (.order .ge)
  | .lt => some (.order .lt)
  | .le => some (.order .le)
  | _ => none

/-- The right side of a condition. -/
inductive Literal where
  | text (content : String)
  | number (value : Binary64)
  | null
deriving DecidableEq, Repr

/-- The literal that a token stands for. -/
def TokenKind.literal? : TokenKind → Option Literal
  | .text content => some (.text content)
  | .number value => some (.number value)
  | .null => some .null
  | _ => none

/-- The condition that compares a field with a literal, with the spans of the operator
and of the whole condition for what is wrong with it. -/
def condition (path : FieldPath) (operatorSpan span : Span) :
    Comparison → Literal → Except ParseError Filter
  | .eq negated, .null => .ok (.null path negated)
  | .eq negated, .text value => .ok (.text path .eq value negated)
  | .eq negated, .number value => .ok (.number path .eq value negated)
  | .matching negated, .text value => .ok (.text path .matching value negated)
  | .matching _, _ => .error (.matchNeedsText path operatorSpan)
  | .order op, .number value => .ok (.number path op value false)
  | .order _, _ => .error (.orderNeedsNumber path span)

/-- Reads the rest of a condition whose path has been read. -/
def conditionFrom (path : FieldPath) (pathSpan : Span) : FilterReader
  | [] => .error (.incomplete .operator)
  | operator :: ts =>
    match operator.kind.comparison? with
    | none => .error (.unexpected .operator operator)
    | some comparison =>
      match ts with
      | [] => .error (.incomplete .literal)
      | literal :: rest =>
        match literal.kind.literal? with
        | none => .error (.unexpected .literal literal)
        | some value =>
          match condition path operator.span ⟨pathSpan.start, literal.span.stop⟩
              comparison value with
          | .error e => .error e
          | .ok filter => .ok ⟨(filter, rest), by simp only [List.length_cons]; omega⟩

/-- Reads the rest of a chain of items with a separator between them, to the right of
`left`, and joins from the left. -/
def chainFrom (separator : TokenKind) (join : Filter → Filter → Filter) (item : FilterReader)
    (left : Filter) (ts : List Token) :
    Except ParseError { r : Filter × List Token // r.2.length ≤ ts.length } :=
  match ts with
  | [] => .ok ⟨(left, []), Nat.le_refl _⟩
  | t :: ts =>
    if t.kind = separator then
      match item ts with
      | .error e => .error e
      | .ok ⟨(right, rest), shorter⟩ =>
        match chainFrom separator join item (join left right) rest with
        | .error e => .error e
        | .ok ⟨r, notLonger⟩ =>
          .ok ⟨r, Nat.le_succ_of_le (Nat.le_of_lt (Nat.lt_of_le_of_lt notLonger shorter))⟩
    else .ok ⟨(left, t :: ts), Nat.le_refl _⟩
termination_by ts.length
decreasing_by exact Nat.lt_succ_of_lt shorter

/-- Reads one or more items with a separator between them. -/
def chain (separator : TokenKind) (join : Filter → Filter → Filter) (item : FilterReader) :
    FilterReader := fun ts =>
  match item ts with
  | .error e => .error e
  | .ok ⟨(left, rest), shorter⟩ =>
    match chainFrom separator join item left rest with
    | .error e => .error e
    | .ok ⟨r, notLonger⟩ => .ok ⟨r, Nat.lt_of_le_of_lt notLonger shorter⟩

/-- Reads what `and` and `or` join out of operands. -/
def disjunctionOf (item : FilterReader) : FilterReader :=
  chain .or Filter.or (chain .and Filter.and item)

/-- Reads a group whose opening parenthesis has been read. -/
def groupOf (item : FilterReader) : FilterReader := fun ts =>
  match disjunctionOf item ts with
  | .error e => .error e
  | .ok ⟨(_, []), _⟩ => .error (.incomplete .closing)
  | .ok ⟨(filter, t :: rest), shorter⟩ =>
    if t.kind = .rparen then
      .ok ⟨(filter, rest), Nat.lt_of_succ_lt shorter⟩
    else .error (.unexpected .closing t)

/-- Reads the operand of a negation that has been read. -/
def negationOf (item : FilterReader) : FilterReader := fun ts =>
  match item ts with
  | .error e => .error e
  | .ok ⟨(filter, rest), shorter⟩ => .ok ⟨(filter.negate, rest), shorter⟩

/-- Reads on after the first token, with one token more to be given up. -/
def afterToken {t : Token} {ts : List Token} :
    Except ParseError (Reading ts) → Except ParseError (Reading (t :: ts))
  | .error e => .error e
  | .ok ⟨r, shorter⟩ => .ok ⟨r, Nat.lt_succ_of_lt shorter⟩

/-- Reads a condition, a group or a negation, with `depth` levels to go. -/
def operand : (depth : Nat) → FilterReader
  | _, [] => .error (.incomplete .operand)
  | depth, t :: ts =>
    match t.kind with
    | .not =>
      match depth with
      | 0 => .error (.tooDeep t.span)
      | depth + 1 => afterToken (negationOf (operand depth) ts)
    | .lparen =>
      match depth with
      | 0 => .error (.tooDeep t.span)
      | depth + 1 => afterToken (groupOf (operand depth) ts)
    | .identifier path => afterToken (conditionFrom (.ofDotted path) t.span ts)
    | _ => .error (.unexpected .operand t)

/-- Reads a whole filter with `depth` levels to go. -/
def disjunction (depth : Nat) : FilterReader := disjunctionOf (operand depth)

/-- The filter that a list of tokens is. -/
def parseTokens (ts : List Token) : Except ParseError Filter :=
  match disjunction maxDepth ts with
  | .error e => .error e
  | .ok ⟨(filter, []), _⟩ => .ok filter
  | .ok ⟨(_, t :: _), _⟩ => .error (.trailing t)

/-- The filter that a text is. -/
def parseFilter (input : String) : Except ParseError Filter := parseTokens (lex input)

end RequestSql
