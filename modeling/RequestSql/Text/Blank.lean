/-!
# Blanks, words and pieces

How a parameter text is cut: blanks are dropped at both ends, a separator cuts a text
into pieces (one more than there are separators), and words are the maximal runs
without a blank. A blank is a character with the Unicode property White_Space.

Key definitions: `Text.isBlank`, `Text.trim`, `Text.words`, `Text.pieces`.
-/

namespace RequestSql.Text

/-- Whether a character is white space. -/
def isBlank (c : Char) : Bool :=
  let code := c.toNat
  (0x9 ≤ code && code ≤ 0xD) || code == 0x20 || code == 0x85 || code == 0xA0 ||
    code == 0x1680 || (0x2000 ≤ code && code ≤ 0x200A) || code == 0x2028 || code == 0x2029 ||
    code == 0x202F || code == 0x205F || code == 0x3000

/-- The text without the blanks at its front. -/
def trimLeft (text : List Char) : List Char := text.dropWhile isBlank

/-- The text without the blanks at its end. -/
def trimRight (text : List Char) : List Char := (text.reverse.dropWhile isBlank).reverse

/-- The text without the blanks at its ends. -/
def trim (text : List Char) : List Char := trimRight (trimLeft text)

/-- The maximal runs of characters that are no blanks, in order. -/
def words (text : List Char) : List (List Char) :=
  (text.splitOnP isBlank).filter (!·.isEmpty)

/-- The pieces of a text between the occurrences of a separator. -/
def pieces (separator : Char) (text : String) : List String :=
  (text.toList.splitOn separator).map String.ofList

end RequestSql.Text
