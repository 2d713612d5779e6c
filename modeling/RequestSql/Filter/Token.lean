import RequestSql.Number.Layout
import RequestSql.Text.Quoted

/-!
# Tokens of the filter language

A token is a kind and the span of text it was read from. Spans count bytes of the UTF-8
form of the text, since that is what a client can cut with.

Key definitions: `TokenKind`, `Span`, `Token`, `TokenKind.listing`.
-/

namespace RequestSql

/-- What a token is. -/
inductive TokenKind where
  | and | or | not | null
  /-- A field path as it is written. -/
  | identifier (path : String)
  /-- A quoted text, without quotes and escapes. -/
  | text (content : String)
  | number (value : Binary64)
  | lparen | rparen
  | eq | notEq | matching | notMatching | gt | ge | lt | le
  /-- A character that begins no token, or a quoted text without an end. -/
  | illegal
deriving DecidableEq, Repr

/-- A stretch of text, in bytes. -/
structure Span where
  /-- Where it begins. -/
  start : Nat
  /-- Where the text after it begins. -/
  stop : Nat
deriving DecidableEq, Repr

/-- The same stretch, `bytes` further on. -/
def Span.shift (span : Span) (bytes : Nat) : Span := ⟨span.start + bytes, span.stop + bytes⟩

/-- A token and where it stands. -/
structure Token where
  kind : TokenKind
  span : Span
deriving DecidableEq, Repr

/-- How messages show a kind of token. -/
def TokenKind.listing : TokenKind → String
  | and => "And"
  | or => "Or"
  | not => "Not"
  | null => "Null"
  | identifier path => "Identifier(" ++ Text.quoted path ++ ")"
  | text content => "String(" ++ Text.quoted content ++ ")"
  | number value => "Number(" ++ NumberLayout.listing.write value ++ ")"
  | lparen => "LParen"
  | rparen => "RParen"
  | eq => "Eq"
  | notEq => "NotEq"
  | matching => "Match"
  | notMatching => "NotMatch"
  | gt => "Gt"
  | ge => "Gte"
  | lt => "Lt"
  | le => "Lte"
  | illegal => "Illegal"

end RequestSql
