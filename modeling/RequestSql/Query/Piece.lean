import RequestSql.Number.Layout
import RequestSql.Plan.Predicate

/-!
# Pieces of statements

A statement is a list of pieces, text and bound values. The pieces can be written in two
ways: with a numbered mark for every value, the values going beside the text; or with
the values in the text as literals, which is for showing only.

Key definitions: `Value`, `Piece`, `numberedText`, `boundValues`, `inlinedText`.
-/

namespace RequestSql

/-- A value that a statement is bound to. -/
inductive Value where
  | text (content : String)
  | number (value : Binary64)
  | count (n : UInt64)
deriving DecidableEq, Repr

/-- The value of a predicate as a value of a statement. -/
def Param.value : Param → Value
  | text content => .text content
  | number value => .number value

namespace Value

/-- What stands for one character in a literal. -/
def literalChar (c : Char) : List Char :=
  if c = '\\' then ['\\', '\\']
  else if c = '"' then ['\\', '"']
  else if c = '\'' then ['\\', '\'']
  else if c = '\x00' then ['\\', '0']
  else if c = '\x08' then ['\\', 'b']
  else if c = '\t' then ['\\', 't']
  else if c = '\x1a' then ['\\', 'z']
  else if c = '\n' then ['\\', 'n']
  else if c = '\r' then ['\\', 'r']
  else [c]

/-- A text as a literal; one with escapes is marked as such. -/
def textLiteral (content : String) : String :=
  let escaped := content.toList.flatMap literalChar
  (if escaped.contains '\\' then "E'" else "'") ++ String.ofList escaped ++ "'"

/-- The value as a literal. -/
def literal : Value → String
  | text content => textLiteral content
  | number value => NumberLayout.literal.write value
  | count n => toString n.toNat

end Value

/-- A piece of a statement. -/
inductive Piece where
  | text (content : String)
  | value (value : Value)
deriving DecidableEq, Repr

/-- The texts of the pieces, the values numbered from `n` on. -/
def numberedFrom (n : Nat) : List Piece → List String
  | [] => []
  | .text content :: pieces => content :: numberedFrom n pieces
  | .value _ :: pieces => ("$" ++ toString n) :: numberedFrom (n + 1) pieces

/-- The text of the pieces, with a numbered mark for every value. -/
def numberedText (pieces : List Piece) : String := String.join (numberedFrom 1 pieces)

/-- The values of the pieces, in the order of their marks. -/
def boundValues : List Piece → List Value
  | [] => []
  | .text _ :: pieces => boundValues pieces
  | .value value :: pieces => value :: boundValues pieces

/-- The text of a piece, with a literal for a value. -/
def Piece.inlined : Piece → String
  | .text content => content
  | .value bound => bound.literal

/-- The text of the pieces, with literals for the values. -/
def inlinedText (pieces : List Piece) : String := String.join (pieces.map Piece.inlined)

end RequestSql
