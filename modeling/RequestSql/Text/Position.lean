/-!
# Positions in texts

Where something stands in a text is counted in bytes of its UTF-8 form, either from the
beginning or as a line and a column. A column counts the bytes of the line that come
before, so the place before the first character is column zero.

Key definitions: `utf8Length`, `Position`, `Position.ofOffset`.
-/

namespace RequestSql

/-- How many bytes the UTF-8 form of a text has. -/
def utf8Length (text : List Char) : Nat := text.foldr (fun c bytes => c.utf8Size + bytes) 0

/-- A line, counted from one, and a column, in bytes. -/
structure Position where
  line : Nat
  column : Nat
deriving DecidableEq, Repr

namespace Position

/-- The beginning of a text. -/
def start : Position := ⟨1, 0⟩

/-- The position after one more character. -/
def next (p : Position) (c : Char) : Position :=
  if c = '\n' then ⟨p.line + 1, 0⟩ else ⟨p.line, p.column + c.utf8Size⟩

/-- The position some bytes further on in the text that begins at a position; it may lie
within a character. -/
def advance (p : Position) (bytes : Nat) : List Char → Position
  | [] => p
  | c :: cs =>
    if c.utf8Size ≤ bytes then (p.next c).advance (bytes - c.utf8Size) cs
    else ⟨p.line, p.column + bytes⟩

/-- The position of an offset in a text. -/
def ofOffset (text : List Char) (offset : Nat) : Position := start.advance offset text

/-- How messages show a position. -/
def text (p : Position) : String :=
  "line " ++ toString p.line ++ " column " ++ toString p.column

end Position

end RequestSql
