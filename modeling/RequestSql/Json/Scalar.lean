import RequestSql.Json.Fault
import RequestSql.Json.Numeral

/-!
# Scalars of JSON text

JSON text is read from left to right by readers of what is wanted there, so the first
fault in the order of the text is the one that is found. This module reads what has no
parts: words, numerals and texts.

A `Json.Reader` gives back the text it did not use, which is shorter; this is why the
loops over the items of arrays and the members of objects end.

Key definitions: `Json.Reader`, `Json.Reader.number`, `Json.Reader.textFrom`,
`Json.Reader.unwanted`.
-/

namespace RequestSql.Json

/-- Something read from the front of a text, and the text after it. -/
abbrev Found (α : Type) (cs : List Char) := { r : α × List Char // r.2.length < cs.length }

/-- The rest of a text after something was passed over. -/
abbrev Passed (cs : List Char) := { rest : List Char // rest.length < cs.length }

/-- What reads a value from the front of a text. -/
abbrev Reader (α : Type) := (cs : List Char) → Except Fault (Found α cs)

theorem skipBlanks_length (cs : List Char) : (skipBlanks cs).length ≤ cs.length :=
  (List.dropWhile_sublist _).length_le

theorem length_lt_of_skipBlanks {cs rest : List Char} {c : Char}
    (h : skipBlanks cs = c :: rest) : rest.length < cs.length := by
  have := skipBlanks_length cs
  rw [h] at this
  exact this

theorem length_le_cons (c : Char) (cs : List Char) : cs.length ≤ (c :: cs).length :=
  Nat.le_succ _

theorem dropWhile_length {α : Type} (p : α → Bool) (xs : List α) :
    (xs.dropWhile p).length ≤ xs.length :=
  (List.dropWhile_sublist _).length_le

namespace Reader

/-- The same result after a longer text. -/
def widen {α : Type} {cs cs' : List Char} (h : cs'.length ≤ cs.length) :
    Except Fault (Found α cs') → Except Fault (Found α cs)
  | .error e => .error e
  | .ok ⟨r, shorter⟩ => .ok ⟨r, Nat.lt_of_lt_of_le shorter h⟩

/-- Another value in place of the one that was read. -/
def mapFound {α β : Type} {cs : List Char} (f : α → β) :
    Except Fault (Found α cs) → Except Fault (Found β cs)
  | .error e => .error e
  | .ok ⟨(a, rest), shorter⟩ => .ok ⟨(f a, rest), shorter⟩

/-- Another value in place of the one that a reader reads. -/
def map {α β : Type} (f : α → β) (reader : Reader α) : Reader β := fun cs =>
  mapFound f (reader cs)

/-- The whole text as what is left of it. -/
def whole (cs : List Char) : { rest : List Char // rest.length ≤ cs.length } :=
  ⟨cs, Nat.le_refl _⟩

/-! ### Words and numerals -/

/-- Passes over the characters of a word. -/
def word : List Char → (cs : List Char) → Except Fault { rest : List Char // rest.length ≤ cs.length }
  | [], cs => .ok (whole cs)
  | _ :: _, [] => .error (.atEnd .value)
  | w :: ws, c :: cs =>
    if w = c then
      match word ws cs with
      | .error e => .error e
      | .ok ⟨rest, h⟩ => .ok ⟨rest, Nat.le_succ_of_le h⟩
    else .error (.within (.malformed .word) (c :: cs))

/-- Reads a value that is written as `first` and then the rest of a word. -/
def constant {α : Type} (value : α) (tail : String) (first : Char) (cs : List Char) :
    Except Fault (Found α (first :: cs)) :=
  match word tail.toList cs with
  | .error e => .error e
  | .ok ⟨rest, h⟩ => .ok ⟨(value, rest), Nat.lt_succ_of_le h⟩

/-- The digits at the front of a text, of which there has to be one; `atEnd` is what is
wrong if the text ends before it. -/
def digits (atEnd : Cause) : Reader (List Char)
  | [] => .error (.before atEnd [])
  | c :: cs =>
    if c.isDigit then
      .ok ⟨(c :: cs.takeWhile Char.isDigit, cs.dropWhile Char.isDigit),
        Nat.lt_succ_of_le (dropWhile_length _ _)⟩
    else .error (.within (.malformed .number) (c :: cs))

/-- The whole digits of a numeral: a zero stands alone. -/
def wholeDigits (atEnd : Cause) (cs : List Char) : Except Fault (Found (List Char) cs) :=
  match digits atEnd cs with
  | .error e => .error e
  | .ok ⟨(ds, rest), h⟩ =>
    if ds.head? = some '0' ∧ ds.length ≠ 1 then
      .error (.within (.malformed .number) cs.tail)
    else .ok ⟨(ds, rest), h⟩

/-- The digits after a point, if the text goes on with one. -/
def placesFrom (atEnd : Cause) (cs : List Char) :
    Except Fault { r : Option (List Char) × List Char // r.2.length ≤ cs.length } :=
  match cs with
  | '.' :: cs =>
    match digits atEnd cs with
    | .error e => .error e
    | .ok ⟨(ds, rest), h⟩ => .ok ⟨(some ds, rest), Nat.le_succ_of_le (Nat.le_of_lt h)⟩
  | cs => .ok ⟨(none, cs), Nat.le_refl _⟩

/-- The sign of a power of ten and what follows it. -/
def powerSign (cs : List Char) : Bool × { rest : List Char // rest.length ≤ cs.length } :=
  match cs with
  | '-' :: cs => (true, ⟨cs, Nat.le_succ _⟩)
  | '+' :: cs => (false, ⟨cs, Nat.le_succ _⟩)
  | cs => (false, ⟨cs, Nat.le_refl _⟩)

/-- The power of ten, if the text goes on with one. -/
def powerFrom (atEnd : Cause) (cs : List Char) :
    Except Fault { r : Option (Bool × List Char) × List Char // r.2.length ≤ cs.length } :=
  match cs with
  | [] => .ok ⟨(none, []), Nat.le_refl _⟩
  | c :: cs =>
    if c = 'e' ∨ c = 'E' then
      let (negative, ⟨unsigned, h⟩) := powerSign cs
      match digits atEnd unsigned with
      | .error e => .error e
      | .ok ⟨(ds, rest), h'⟩ =>
        .ok ⟨(some (negative, ds), rest), by simp only [List.length_cons]; dsimp only at *; omega⟩
    else .ok ⟨(none, c :: cs), Nat.le_refl _⟩

/-- Reads a numeral; `atEnd` is what is wrong if it ends too early. -/
def numeral (atEnd : Cause) : Reader Numeral := fun cs =>
  let ⟨negative, unsigned, h⟩ :
      (_ : Bool) × { rest : List Char // rest.length ≤ cs.length } :=
    match cs with
    | '-' :: cs => ⟨true, cs, Nat.le_succ _⟩
    | cs => ⟨false, cs, Nat.le_refl _⟩
  match wholeDigits atEnd unsigned with
  | .error e => .error e
  | .ok ⟨(whole, afterWhole), h1⟩ =>
    match placesFrom atEnd afterWhole with
    | .error e => .error e
    | .ok ⟨(places, afterPlaces), h2⟩ =>
      match powerFrom atEnd afterPlaces with
      | .error e => .error e
      | .ok ⟨(power, rest), h3⟩ =>
        .ok ⟨(⟨negative, whole, places, power⟩, rest), by dsimp only at *; omega⟩

/-- Reads a number, which has to be in range. -/
def number : Reader JsonNumber := fun cs =>
  match numeral (.ended .value) cs with
  | .error e => .error e
  | .ok ⟨(n, rest), h⟩ =>
    match n.value? with
    | none => .error (.before (.malformed .outOfRange) (n.unread ++ rest))
    | some value => .ok ⟨(value, rest), h⟩

/-! ### Texts -/

/-- The value of a hexadecimal digit. -/
def hexValue? (c : Char) : Option Nat :=
  if c.isDigit then some (c.toNat - '0'.toNat)
  else if 'a' ≤ c ∧ c ≤ 'f' then some (c.toNat - 'a'.toNat + 10)
  else if 'A' ≤ c ∧ c ≤ 'F' then some (c.toNat - 'A'.toNat + 10)
  else none

/-- What is wrong with a text that does not begin with four hexadecimal digits; one of
less than four bytes has ended. -/
def notHex (cs : List Char) : Fault :=
  if utf8Length cs < 4 then .atEnd .text
  else ⟨.malformed .escape, .settled (utf8Length cs - 4)⟩

/-- Reads four hexadecimal digits. -/
def hexUnit : Reader Nat
  | a :: b :: c :: d :: rest =>
    match hexValue? a, hexValue? b, hexValue? c, hexValue? d with
    | some a, some b, some c, some d =>
      .ok ⟨(((a * 16 + b) * 16 + c) * 16 + d, rest), by simp only [List.length_cons]; omega⟩
    | _, _, _, _ => .error (notHex (a :: b :: c :: d :: rest))
  | cs => .error (notHex cs)

/-- Whether a code unit is the first of a pair. -/
def isLeading (unit : Nat) : Bool := 0xD800 ≤ unit && unit ≤ 0xDBFF

/-- Whether a code unit is the second of a pair. -/
def isTrailing (unit : Nat) : Bool := 0xDC00 ≤ unit && unit ≤ 0xDFFF

/-- Reads the code point after a `\u`; a unit of a pair has to have its other one. -/
def codePoint : Reader Char := fun cs =>
  match hexUnit cs with
  | .error e => .error e
  | .ok ⟨(unit, rest), h⟩ =>
    if isTrailing unit then .error (.before (.malformed .loneUnit) rest)
    else if isLeading unit then
      match rest, h with
      | [], _ => .error (.atEnd .text)
      | '\\' :: [], _ => .error (.atEnd .text)
      | '\\' :: 'u' :: rest, h =>
        match hexUnit rest with
        | .error e => .error e
        | .ok ⟨(second, rest), h'⟩ =>
          if isTrailing second then
            .ok ⟨(Char.ofNat ((unit - 0xD800) * 0x400 + (second - 0xDC00) + 0x10000), rest),
              by simp only [List.length_cons] at h; dsimp only at *; omega⟩
          else .error (.before (.malformed .loneUnit) rest)
      | '\\' :: cs, _ => .error (.within (.malformed .halfPair) cs)
      | cs, _ => .error (.within (.malformed .halfPair) cs)
    else .ok ⟨(Char.ofNat unit, rest), h⟩

/-- The character that an escape of one letter stands for. -/
def shortEscape? : Char → Option Char
  | '"' => some '"'
  | '\\' => some '\\'
  | '/' => some '/'
  | 'b' => some '\x08'
  | 'f' => some '\x0c'
  | 'n' => some '\n'
  | 'r' => some '\r'
  | 't' => some '\t'
  | _ => none

/-- Reads what follows a backslash; `unit` reads what follows a `\u`. -/
def escape (unit : Reader Char) : Reader Char
  | [] => .error (.atEnd .text)
  | 'u' :: cs => widen (Nat.le_succ _) (unit cs)
  | c :: cs =>
    match shortEscape? c with
    | some escaped => .ok ⟨(escaped, cs), Nat.lt_succ_self _⟩
    | none => .error (.within (.malformed .escape) (c :: cs))

/-- Reads the rest of a text whose opening quote has been read. -/
def textFrom (unit : Reader Char) (cs : List Char) : Except Fault (Found (List Char) cs) :=
  match cs with
  | [] => .error (.atEnd .text)
  | c :: cs =>
    if c = '"' then .ok ⟨([], cs), Nat.lt_succ_self _⟩
    else if c = '\\' then
      match escape unit cs with
      | .error e => .error e
      | .ok ⟨(c, rest), h⟩ =>
        mapFound (c :: ·) (widen (Nat.le_succ_of_le (Nat.le_of_lt h)) (textFrom unit rest))
    else if c.toNat < 0x20 then .error (.within (.malformed .control) (c :: cs))
    else mapFound (c :: ·) (widen (Nat.le_succ _) (textFrom unit cs))
termination_by cs.length
decreasing_by
  · exact Nat.lt_succ_of_lt h
  · exact Nat.lt_succ_self _

/-- Reads the rest of a text as a value. -/
def contentFrom (cs : List Char) : Except Fault (Found String cs) :=
  mapFound String.ofList (textFrom codePoint cs)

/-- Reads a code unit and takes no notice of it. -/
def anyUnit : Reader Char := map (fun _ => '?') hexUnit

/-! ### Values that nobody wants -/

/-- What is wrong when a value was read that is not wanted: nothing but that. -/
def judge {α : Type} {cs : List Char} (wanted : Form) (shape : α → Shape) :
    Except Fault (Found α cs) → Fault
  | .error e => e
  | .ok ⟨(a, rest), _⟩ => .before (.wrongType (shape a) wanted) rest

/-- What is wrong with a text that does not begin with what is wanted: a fault of the
value that it begins with, if that is no array or object, and else that it is not
wanted. -/
def unwanted (wanted : Form) (cs : List Char) : Fault :=
  match skipBlanks cs with
  | [] => .atEnd .value
  | 'n' :: cs => judge wanted id (constant Shape.null "ull" 'n' cs)
  | 't' :: cs => judge wanted id (constant (Shape.bool true) "rue" 't' cs)
  | 'f' :: cs => judge wanted id (constant (Shape.bool false) "alse" 'f' cs)
  | '"' :: cs => judge wanted Shape.text (contentFrom cs)
  | '[' :: cs => .before (.wrongType .list wanted) ('[' :: cs)
  | '\x7b' :: cs => .before (.wrongType .map wanted) ('\x7b' :: cs)
  | c :: cs =>
    if c == '-' || c.isDigit then judge wanted Shape.number (number (c :: cs))
    else .within (.malformed .value) (c :: cs)

end Reader

end RequestSql.Json
