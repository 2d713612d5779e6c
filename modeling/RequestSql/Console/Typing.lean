import RequestSql.Text.Grapheme
import RequestSql.Text.Position

/-!
# Typed lines

A line of input may hold backspaces. Each takes back the last grapheme that is still
there, whatever that is made of; at the beginning of the line it does nothing. The size
of a grapheme is kept in one byte, so a longer one loses only what exceeds the multiples
of 256 bytes. A line in which this would cut a character cannot be read, and no line
after it is.

Key definitions: `typedLine?`, `readLines`.
-/

namespace RequestSql

/-- What has been typed of a line. -/
structure Typing where
  /-- The characters, the last one first. -/
  reversed : List Char
  /-- The sizes of the graphemes, the last one first. -/
  sizes : List Nat
deriving DecidableEq, Repr

namespace Typing

/-- Nothing. -/
def empty : Typing := ⟨[], []⟩

/-- The characters after those that make up the first `bytes` bytes, unless these end
within a character. -/
def dropBytes? (bytes : Nat) : List Char → Option (List Char)
  | [] => if bytes = 0 then some [] else none
  | c :: cs =>
    if bytes = 0 then some (c :: cs)
    else if c.utf8Size ≤ bytes then dropBytes? (bytes - c.utf8Size) cs
    else none

/-- What has been typed after one more grapheme. -/
def type? (typing : Typing) (grapheme : List Char) : Option Typing :=
  if grapheme = ['\x08'] then
    match typing.sizes with
    | [] => some typing
    | size :: sizes => (dropBytes? (size % 256) typing.reversed).map (⟨·, sizes⟩)
  else some ⟨grapheme.reverse ++ typing.reversed, utf8Length grapheme :: typing.sizes⟩

/-- The text that has been typed. -/
def text (typing : Typing) : String := String.ofList typing.reversed.reverse

end Typing

/-- The line that is left of what was typed, if it can be read. -/
def typedLine? (typed : String) : Option String :=
  ((Text.graphemes typed.toList).foldlM Typing.type? .empty).map Typing.text

/-- The lines that are left of what was typed, up to one that cannot be read. -/
def readLines : List String → List String
  | [] => []
  | typed :: rest =>
    match typedLine? typed with
    | none => []
    | some line => line :: readLines rest

end RequestSql
