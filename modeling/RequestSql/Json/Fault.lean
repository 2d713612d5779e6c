import RequestSql.Json.Value
import RequestSql.Number.Layout
import RequestSql.Text.Position
import RequestSql.Text.Quoted

/-!
# Faults of JSON text

What can be wrong with a JSON text that is read for a certain form, and where. There are
three categories: the text ends too early, it is not JSON, or it is JSON of another form
than wanted. A fault has a cause and mostly a position; the wording is in one place.

Where readers find a fault, its place is known by the text that is left. A value that was
read in full and then refused has its place where the array or object that holds it goes
on, which only the reader of that one knows; until then the fault is loose.

Key definitions: `Json.Cause`, `Json.Category`, `Json.Fault`, `Json.TextFault`.
-/

namespace RequestSql.Json

/-- What a text is in the middle of. -/
inductive Part where
  | list
  | object
  | text
  | value
deriving DecidableEq, Repr

/-- Why a text is not JSON. -/
inductive Flaw where
  /-- No colon after the name of a member. -/
  | colon
  /-- Neither a comma nor the end of an array after an item. -/
  | itemEnd
  /-- Neither a comma nor the end of an object after a member. -/
  | memberEnd
  /-- Another word than `null`, `true` or `false`. -/
  | word
  /-- Something that begins no value. -/
  | value
  | escape
  | number
  /-- A number beyond the finite ones. -/
  | outOfRange
  /-- A control character within a text. -/
  | control
  /-- Something else than a text for the name of a member. -/
  | name
  /-- A code unit of a pair in the other one's place. -/
  | loneUnit
  /-- The first code unit of a pair without the second. -/
  | halfPair
  | trailingComma
  /-- Something after the end of a value. -/
  | trailingText
  | tooDeep
deriving DecidableEq, Repr

/-- What is wanted. -/
inductive Form where
  | text
  /-- An integer of 64 bits without sign. -/
  | count
  | list
  | map
  | record (name : String)
deriving DecidableEq, Repr

/-- What is there instead. -/
inductive Shape where
  | null
  | bool (value : Bool)
  | number (value : JsonNumber)
  | text (content : String)
  | list
  | map
deriving DecidableEq, Repr

/-- What is wrong. -/
inductive Cause where
  /-- The text ends too early. -/
  | ended (part : Part)
  /-- The text is not JSON. -/
  | malformed (flaw : Flaw)
  /-- A value has another type than wanted. -/
  | wrongType (found : Shape) (wanted : Form)
  /-- An integer is out of the wanted range. -/
  | wrongValue (found : Int) (wanted : Form)
  /-- A field of a record is left out. -/
  | missingField (name : String)
  /-- A field of a record comes twice. -/
  | repeatedField (name : String)
  /-- A record that is written as an array ends after `count` of its `size` fields. -/
  | tooFewItems (count : Nat) (record : String) (size : Nat)
  /-- A value is of the wanted form and refused for another reason. -/
  | refused (reason : String)
deriving DecidableEq, Repr

/-- The kinds of causes. -/
inductive Category where
  /-- The text ends too early. -/
  | ended
  /-- The text is not JSON. -/
  | malformed
  /-- The text is JSON, but not what is wanted. -/
  | mismatch
deriving DecidableEq, Repr

namespace Cause

/-- The kind of a cause. -/
def category : Cause → Category
  | ended _ => .ended
  | malformed _ => .malformed
  | _ => .mismatch

end Cause

/-! ### Wording -/

/-- How messages call a part. -/
def Part.phrase : Part → String
  | list => "a list"
  | object => "an object"
  | text => "a string"
  | value => "a value"

/-- What messages say of a flaw. -/
def Flaw.message : Flaw → String
  | colon => "expected \u0060:\u0060"
  | itemEnd => "expected \u0060,\u0060 or \u0060]\u0060"
  | memberEnd => "expected \u0060,\u0060 or \u0060\x7d\u0060"
  | word => "expected ident"
  | value => "expected value"
  | escape => "invalid escape"
  | number => "invalid number"
  | outOfRange => "number out of range"
  | control => "control character (\\u0000-\\u001F) found while parsing a string"
  | name => "key must be a string"
  | loneUnit => "lone leading surrogate in hex escape"
  | halfPair => "unexpected end of hex escape"
  | trailingComma => "trailing comma"
  | trailingText => "trailing characters"
  | tooDeep => "recursion limit exceeded"

/-- How messages call what is wanted. -/
def Form.phrase : Form → String
  | text => "a string"
  | count => "u64"
  | list => "a sequence"
  | map => "a map"
  | record name => "struct " ++ name

/-- How messages show an integer. -/
def integerText (n : Int) : String := "integer \u0060" ++ toString n ++ "\u0060"

/-- How messages show what is there. -/
def Shape.listing : Shape → String
  | null => "null"
  | bool value => "boolean \u0060" ++ (if value then "true" else "false") ++ "\u0060"
  | number (.integer n) => integerText n
  | number (.real x) => "floating point \u0060" ++ NumberLayout.json.write x ++ "\u0060"
  | text content => "string " ++ Text.quoted content
  | list => "sequence"
  | map => "map"

/-- How messages count the fields of a record. -/
def elementsText (size : Nat) : String :=
  if size = 1 then "1 element" else toString size ++ " elements"

/-- What messages say of a cause. -/
def Cause.message : Cause → String
  | ended part => "EOF while parsing " ++ part.phrase
  | malformed flaw => flaw.message
  | wrongType found wanted => "invalid type: " ++ found.listing ++ ", expected " ++ wanted.phrase
  | wrongValue found wanted =>
    "invalid value: " ++ integerText found ++ ", expected " ++ wanted.phrase
  | missingField name => "missing field \u0060" ++ name ++ "\u0060"
  | repeatedField name => "duplicate field \u0060" ++ name ++ "\u0060"
  | tooFewItems count record size =>
    "invalid length " ++ toString count ++ ", expected struct " ++ record ++ " with " ++
      elementsText size
  | refused reason => reason

/-! ### Places -/

/-- Whether a character separates tokens of JSON text. -/
def isBlank (c : Char) : Bool := c == ' ' || c == '\n' || c == '\t' || c == '\r'

/-- The text after the blanks at its front. -/
def skipBlanks (cs : List Char) : List Char := cs.dropWhile isBlank

/-- A pair of brackets. -/
inductive Bracket where
  | array
  | object
deriving DecidableEq, Repr

namespace Bracket

/-- The character that closes a bracket. -/
def closing : Bracket → Char
  | array => ']'
  | object => '\x7d'

/-- What a text ends in the middle of when a bracket is open. -/
def part : Bracket → Part
  | array => .list
  | object => .object

/-- What is wrong when neither a comma nor the end of a bracket comes. -/
def flaw : Bracket → Flaw
  | array => .itemEnd
  | object => .memberEnd

/-- Where a bracket goes on when a value in it was refused: after its end if that comes
next, and in an array after a comma. -/
def goOn (bracket : Bracket) (cs : List Char) : List Char :=
  match skipBlanks cs with
  | [] => []
  | c :: cs =>
    if c = bracket.closing then cs
    else if bracket = .array ∧ c = ',' then skipBlanks cs
    else c :: cs

end Bracket

/-- Where a fault is. -/
inductive Place where
  /-- So many bytes before the end of the text. -/
  | settled (left : Nat)
  /-- Where the bracket goes on that the value before this text is in. -/
  | loose (rest : List Char)
deriving DecidableEq, Repr

/-- What a reader finds wrong, and where. -/
structure Fault where
  cause : Cause
  place : Place
deriving DecidableEq, Repr

namespace Fault

/-- A fault before a text. -/
def before (cause : Cause) (rest : List Char) : Fault := ⟨cause, .settled (utf8Length rest)⟩

/-- A fault one byte into a text, or at its end if it is empty. -/
def within (cause : Cause) (rest : List Char) : Fault := ⟨cause, .settled (utf8Length rest - 1)⟩

/-- A fault of the value before a text. -/
def after (cause : Cause) (rest : List Char) : Fault := ⟨cause, .loose rest⟩

/-- The end of the text inside a part. -/
def atEnd (part : Part) : Fault := ⟨.ended part, .settled 0⟩

/-- The fault of a value in a bracket as a fault of the text. -/
def settle (bracket : Bracket) (fault : Fault) : Fault :=
  match fault.place with
  | .settled _ => fault
  | .loose rest => before fault.cause (bracket.goOn rest)

end Fault

/-- What is wrong with a whole text, and where if that is known. -/
structure TextFault where
  cause : Cause
  position : Option Position
deriving DecidableEq, Repr

/-- The fault of a reader as one of the text that it was given. -/
def Fault.inText (fault : Fault) (text : List Char) : TextFault :=
  match fault.place with
  | .settled left => ⟨fault.cause, some (.ofOffset text (utf8Length text - left))⟩
  | .loose _ => ⟨fault.cause, none⟩

namespace TextFault

/-- The kind of a fault. -/
def category (fault : TextFault) : Category := fault.cause.category

/-- The text of a fault. -/
def message (fault : TextFault) : String :=
  match fault.position with
  | none => fault.cause.message
  | some position => fault.cause.message ++ " at " ++ position.text

end TextFault

end RequestSql.Json
