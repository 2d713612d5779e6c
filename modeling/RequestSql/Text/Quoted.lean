import RequestSql.Text.Visible

/-!
# Quoted text

The quoted form in which messages and listings show a text: in double quotes, with a
short escape for the quote, the backslash and the commonest controls, and a code point
in hexadecimal for every other character that is not shown as it is.

Key definition: `Text.quoted`.
-/

namespace RequestSql.Text

/-- The lower-case hexadecimal digits of a number. -/
def hexDigits (n : Nat) : String := String.ofList (Nat.toDigits 16 n)

/-- What stands for one character inside a quoted text. -/
def quotedChar (c : Char) : String :=
  if c == '\x00' then "\\0"
  else if c == '\t' then "\\t"
  else if c == '\r' then "\\r"
  else if c == '\n' then "\\n"
  else if c == '\\' then "\\\\"
  else if c == '"' then "\\\""
  else if isShown c then c.toString
  else "\\u\x7b" ++ hexDigits c.toNat ++ "\x7d"

/-- The text in double quotes, with escapes. -/
def quoted (text : String) : String :=
  "\"" ++ String.join (text.toList.map quotedChar) ++ "\""

end RequestSql.Text
