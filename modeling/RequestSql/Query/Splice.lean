import RequestSql.Query.Piece
import RequestSql.Text.Letter

/-!
# Splicing predicates

How the text of a predicate becomes pieces of a statement. First every `?` gets the
number of its value, wherever it stands. Then the text is cut into tokens, and a `$`
binds a value: with a word after it the value of that number, else the next one in
order; `$$` is a plain `$`. Within a word a `$` is part of the word and binds nothing, so
a mark directly after a letter or digit stays as it is, and after a `$` a word that is no
number binds nothing either. Inside quotes and brackets nothing is bound. A mark without
a value binds nothing.

Key definitions: `numberMarks`, `SqlToken`, `sqlTokens`, `bindTokens`, `splice`.
-/

namespace RequestSql

/-- Text with the marks numbered from `n` on. -/
def numberMarksFrom (n : Nat) : List Char → List Char
  | [] => []
  | c :: cs =>
    if c = '?' then '$' :: Nat.toDigits 10 n ++ numberMarksFrom (n + 1) cs
    else c :: numberMarksFrom n cs

/-- The text of a predicate with its marks numbered. -/
def numberMarks (text : String) : List Char := numberMarksFrom 1 text.toList

/-- A token of a predicate. -/
inductive SqlToken where
  /-- Blanks. -/
  | space (text : List Char)
  /-- Letters and digits, and after the first one `_` and `$`. -/
  | word (text : List Char)
  /-- Anything between quotes or brackets. -/
  | quoted (text : List Char)
  /-- Any other character. -/
  | mark (c : Char)
deriving DecidableEq, Repr

namespace SqlToken

/-- The characters of a token. -/
def text : SqlToken → List Char
  | space text => text
  | word text => text
  | quoted text => text
  | mark c => [c]

/-- Whether a character is a blank between tokens. -/
def isSpace (c : Char) : Bool := c == ' ' || c == '\t' || c == '\r' || c == '\n'

/-- Whether a character may begin a word. -/
def startsWord (c : Char) : Bool := Text.isLetter c || c.isDigit

/-- Whether a character may continue a word. -/
def continuesWord (c : Char) : Bool := startsWord c || c == '_' || c == '$'

/-- The character that ends what another one opens. -/
def closing? : Char → Option Char
  | '\'' => some '\''
  | '"' => some '"'
  | '\u0060' => some '\u0060'
  | '[' => some ']'
  | _ => none

/-- What stands up to the end of a quotation, that included, and what follows. A backslash
takes the next character along, and so does a quote that is written twice; without an
end the quotation goes to the end of the text. -/
def quotation (opening close : Char) (escaped : Bool) : List Char → List Char × List Char
  | [] => ([], [])
  | c :: cs =>
    if c = close ∧ !escaped then
      match cs with
      | [] => ([c], [])
      | d :: rest =>
        if opening = close ∧ d = close then
          let (taken, left) := quotation opening close false rest
          (c :: d :: taken, left)
        else ([c], d :: rest)
    else
      let (taken, left) := quotation opening close (!escaped && c == '\\') cs
      (c :: taken, left)

theorem quotation_length (opening close : Char) (escaped : Bool) (cs : List Char) :
    (quotation opening close escaped cs).2.length ≤ cs.length := by
  fun_induction quotation opening close escaped cs with
  | case1 => simp
  | case2 => simp
  | case3 => simp_all; omega
  | case4 => simp
  | case5 => simp_all; omega

/-- The token that begins with `c`, and what follows it. -/
def scan (c : Char) (cs : List Char) : SqlToken × List Char :=
  if isSpace c then (.space (c :: cs.takeWhile isSpace), cs.dropWhile isSpace)
  else if startsWord c then
    (.word (c :: cs.takeWhile continuesWord), cs.dropWhile continuesWord)
  else
    match closing? c with
    | some close =>
      let (taken, left) := quotation c close false cs
      (.quoted (c :: taken), left)
    | none => (.mark c, cs)

theorem scan_length (c : Char) (cs : List Char) : (scan c cs).2.length ≤ cs.length := by
  unfold scan
  split
  · exact (List.dropWhile_sublist _).length_le
  · split
    · exact (List.dropWhile_sublist _).length_le
    · split
      · exact quotation_length ..
      · exact Nat.le_refl _

end SqlToken

/-- The tokens of the text of a predicate. -/
def sqlTokens (cs : List Char) : List SqlToken :=
  match cs with
  | [] => []
  | c :: cs => (SqlToken.scan c cs).1 :: sqlTokens (SqlToken.scan c cs).2
termination_by cs.length
decreasing_by exact Nat.lt_succ_of_le (SqlToken.scan_length c cs)

/-- The piece for a value; there is none if the value is missing. -/
def valuePiece (value : Option Param) : List Piece :=
  match value with
  | some param => [.value param.value]
  | none => []

/-- The number that a word is, if it consists of digits. -/
def wordNumber? (word : List Char) : Option Nat :=
  if word.all Char.isDigit then some (digitsValue word) else none

/-- The value that a word after a `$` asks for, counting from one. -/
def wordValue? (params : List Param) (word : List Char) : Option Param :=
  match wordNumber? word with
  | some (n + 1) => params[n]?
  | _ => none

/-- The pieces of a list of tokens; `next` is the index of the next value in order. -/
def bindTokens (params : List Param) (next : Nat) : List SqlToken → List Piece
  | [] => []
  | .mark '$' :: .mark '$' :: tokens => .text "$" :: bindTokens params next tokens
  | .mark '$' :: .word word :: tokens =>
    valuePiece (wordValue? params word) ++ bindTokens params next tokens
  | .mark '$' :: tokens => valuePiece params[next]? ++ bindTokens params (next + 1) tokens
  | token :: tokens => .text (String.ofList token.text) :: bindTokens params next tokens

/-- The pieces of a predicate. -/
def splice (text : String) (params : List Param) : List Piece :=
  bindTokens params 0 (sqlTokens (numberMarks text))

end RequestSql
