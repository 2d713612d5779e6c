import RequestSql.Json.Value
import RequestSql.Number.Layout
import RequestSql.Text.Quoted

/-!
# Writing JSON text

JSON text without blanks. A text has escapes for the quote, the backslash and the
controls below the space, and everything else as it is; a number is the shortest one
that reads back.

Key definitions: `Json.write`, `Json.writeValue`, `Json.writeText`.
-/

namespace RequestSql.Json

/-- What stands for one character inside a text. -/
def escaped (c : Char) : List Char :=
  if c = '"' then ['\\', '"']
  else if c = '\\' then ['\\', '\\']
  else if c = '\x08' then ['\\', 'b']
  else if c = '\x0c' then ['\\', 'f']
  else if c = '\n' then ['\\', 'n']
  else if c = '\r' then ['\\', 'r']
  else if c = '\t' then ['\\', 't']
  else if c.toNat < 0x20 then
    ['\\', 'u', '0', '0', Nat.digitChar (c.toNat / 16), Nat.digitChar (c.toNat % 16)]
  else [c]

/-- A text with its quotes, before what follows it. -/
def writeText (content : String) (rest : List Char) : List Char :=
  '"' :: content.toList.flatMap escaped ++ '"' :: rest

/-- The characters of a number. -/
def numberCharacters : JsonNumber → List Char
  | .integer value => (toString value).toList
  | .real value => (NumberLayout.json.write value).toList

mutual

/-- The characters of a value, before what follows it. -/
def writeValue : Json → List Char → List Char
  | null, rest => "null".toList ++ rest
  | bool value, rest => (if value then "true" else "false").toList ++ rest
  | number value, rest => numberCharacters value ++ rest
  | text content, rest => writeText content rest
  | array items, rest => '[' :: writeItems true items rest
  | object members, rest => '\x7b' :: writeMembers true members rest

/-- The items of an array, each but the first after a comma, and the closing bracket. -/
def writeItems (first : Bool) : List Json → List Char → List Char
  | [], rest => ']' :: rest
  | item :: items, rest =>
    (if first then [] else [',']) ++ writeValue item (writeItems false items rest)

/-- The members of an object, each but the first after a comma, and the closing brace. -/
def writeMembers (first : Bool) : List (String × Json) → List Char → List Char
  | [], rest => '\x7d' :: rest
  | (name, value) :: members, rest =>
    (if first then [] else [',']) ++
      writeText name (':' :: writeValue value (writeMembers false members rest))

end

/-- The text of a value. -/
def write (value : Json) : String := String.ofList (value.writeValue [])

end RequestSql.Json
