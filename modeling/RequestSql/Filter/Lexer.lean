import RequestSql.Filter.Token
import RequestSql.Text.Blank
import RequestSql.Text.Letter
import RequestSql.Text.Position

/-!
# Reading tokens

A filter text is read from left to right: blanks are passed over, and any other
character begins a token. `Lexeme.scan` reads one token from its first character on and
says which characters it took; what it leaves is a suffix of what it was given, so
reading ends. No text is refused: what begins no token is an illegal token of one
character, and a quoted text without an end is an illegal token that takes all the rest.

Key definitions: `Lexeme`, `Lexeme.scan`, `lexFrom`, `lex`.
Key theorems: `Lexeme.scan_taken_append_rest`, `Lexeme.scan_rest_length`.
-/

namespace RequestSql

/-- A token read from the front of a text. -/
structure Lexeme where
  kind : TokenKind
  /-- The characters of the token after its first one. -/
  taken : List Char
  /-- The text after the token. -/
  rest : List Char
deriving DecidableEq, Repr

namespace Lexeme

/-- The token that a run of word characters and dots is: a keyword in any case, or else
an identifier. -/
def keyword (word : List Char) : TokenKind :=
  match String.ofList (word.map Char.toLower) with
  | "and" => .and
  | "or" => .or
  | "not" => .not
  | "null" => .null
  | "eq" => .eq
  | "ne" => .notEq
  | "match" => .matching
  | "nomatch" => .notMatching
  | "gt" => .gt
  | "ge" => .ge
  | "lt" => .lt
  | "le" => .le
  | _ => .identifier (String.ofList word)

/-- Whether a character continues an identifier. -/
def continuesPath (c : Char) : Bool := Text.isWordChar c || c == '.'

/-- Whether a character begins an identifier. -/
def startsPath (c : Char) : Bool := Text.isLetter c || c == '_'

/-- A keyword or an identifier that begins with `first`. -/
def path (first : Char) (text : List Char) : Lexeme :=
  let taken := text.takeWhile continuesPath
  ⟨keyword (first :: taken), taken, text.dropWhile continuesPath⟩

/-- The digits at the front of a text and after them, if a point and a digit follow, the
fraction. -/
def fraction (text : List Char) : List Char × List Char :=
  match text with
  | '.' :: digits =>
    if digits.head?.any Char.isDigit then
      (digits.takeWhile Char.isDigit, digits.dropWhile Char.isDigit)
    else ([], text)
  | _ => ([], text)

/-- The token that the characters of a numeral are: the number that they say, and illegal if
they say none. -/
def numeral (text : List Char) : TokenKind :=
  match Binary64.parse? text with
  | some value => .number value
  | none => .illegal

/-- A number that begins with `first`, a minus sign or a digit. -/
def number (first : Char) (text : List Char) : Lexeme :=
  let whole := text.takeWhile Char.isDigit
  let (places, rest) := fraction (text.dropWhile Char.isDigit)
  let taken := whole ++ (if places.isEmpty then [] else '.' :: places)
  ⟨numeral (first :: taken), taken, rest⟩

/-- The content of a quoted text up to its closing quote, the characters it was written
with, the quote included, and what follows; a backslash takes the next character as it
is. There is none if the quote does not come. -/
def quotation (quote : Char) : List Char → Option (List Char × List Char × List Char)
  | [] => none
  | ['\\'] => none
  | '\\' :: c :: text =>
    (quotation quote text).map fun (content, taken, rest) =>
      (c :: content, '\\' :: c :: taken, rest)
  | c :: text =>
    if c == quote then some ([], [c], text)
    else (quotation quote text).map fun (content, taken, rest) =>
      (c :: content, c :: taken, rest)

/-- A quoted text after its opening quote. -/
def text (quote : Char) (cs : List Char) : Lexeme :=
  match quotation quote cs with
  | some (content, taken, rest) => ⟨.text (String.ofList content), taken, rest⟩
  | none => ⟨.illegal, cs, []⟩

/-- A token of one character, or of two if the text goes on with `second`. -/
def oneOrTwo (second : Char) (two one : TokenKind) : List Char → Lexeme
  | c :: cs => if c == second then ⟨two, [c], cs⟩ else ⟨one, [], c :: cs⟩
  | [] => ⟨one, [], []⟩

/-- The token that begins with `first`, which is no blank, and goes on in `cs`. -/
def scan (first : Char) (cs : List Char) : Lexeme :=
  if first == '(' then ⟨.lparen, [], cs⟩
  else if first == ')' then ⟨.rparen, [], cs⟩
  else if first == '~' then ⟨.matching, [], cs⟩
  else if first == '=' then oneOrTwo '=' .eq .illegal cs
  else if first == '!' then
    if cs.head? == some '~' then oneOrTwo '~' .notMatching .illegal cs
    else oneOrTwo '=' .notEq .illegal cs
  else if first == '<' then oneOrTwo '=' .le .lt cs
  else if first == '>' then oneOrTwo '=' .ge .gt cs
  else if first == '-' && cs.head?.any Char.isDigit then number first cs
  else if first == '"' || first == '\'' then text first cs
  else if first.isDigit then number first cs
  else if startsPath first then path first cs
  else ⟨.illegal, [], cs⟩

theorem fraction_eq (cs : List Char) :
    (if (fraction cs).1.isEmpty then [] else '.' :: (fraction cs).1) ++ (fraction cs).2 = cs := by
  unfold fraction
  split
  · next digits =>
    split
    · next h =>
      cases digits with
      | nil => simp at h
      | cons d ds =>
        have hd : d.isDigit = true := by simpa using h
        simp [hd, List.takeWhile_append_dropWhile]
    · simp
  · simp

theorem quotation_eq {quote : Char} {cs content taken rest : List Char}
    (h : quotation quote cs = some (content, taken, rest)) : taken ++ rest = cs := by
  fun_induction quotation quote cs generalizing content taken rest with
  | case1 => simp at h
  | case2 => simp at h
  | case3 c text ih =>
    obtain ⟨⟨content', taken', rest'⟩, h', heq⟩ := Option.map_eq_some_iff.1 h
    simp only [Prod.mk.injEq] at heq
    obtain ⟨-, rfl, rfl⟩ := heq
    simp [ih h']
  | case4 c text _ _ hc =>
    simp at h
    obtain ⟨-, rfl, rfl⟩ := h
    rfl
  | case5 c text _ _ hc ih =>
    obtain ⟨⟨content', taken', rest'⟩, h', heq⟩ := Option.map_eq_some_iff.1 h
    simp only [Prod.mk.injEq] at heq
    obtain ⟨-, rfl, rfl⟩ := heq
    simp [ih h']

theorem oneOrTwo_taken_append_rest (second : Char) (two one : TokenKind) (cs : List Char) :
    (oneOrTwo second two one cs).taken ++ (oneOrTwo second two one cs).rest = cs := by
  cases cs with
  | nil => rfl
  | cons c cs => by_cases h : (c == second) = true <;> simp [oneOrTwo, h]

theorem number_taken_append_rest (first : Char) (cs : List Char) :
    (number first cs).taken ++ (number first cs).rest = cs := by
  have h := fraction_eq (cs.dropWhile Char.isDigit)
  simp only [number]
  rw [List.append_assoc, h, List.takeWhile_append_dropWhile]

theorem text_taken_append_rest (quote : Char) (cs : List Char) :
    (text quote cs).taken ++ (text quote cs).rest = cs := by
  unfold text
  split
  · next h => exact quotation_eq h
  · simp

theorem path_taken_append_rest (first : Char) (cs : List Char) :
    (path first cs).taken ++ (path first cs).rest = cs :=
  List.takeWhile_append_dropWhile

theorem ite_taken_append_rest {p : Prop} [Decidable p] {a b : Lexeme} {cs : List Char}
    (ha : a.taken ++ a.rest = cs) (hb : b.taken ++ b.rest = cs) :
    (if p then a else b).taken ++ (if p then a else b).rest = cs := by
  by_cases h : p <;> simp [h, ha, hb]

/-- A token and what is left are what was there: reading drops nothing. -/
theorem scan_taken_append_rest (first : Char) (cs : List Char) :
    (scan first cs).taken ++ (scan first cs).rest = cs := by
  unfold scan
  repeat' apply ite_taken_append_rest
  all_goals first
    | rfl
    | exact oneOrTwo_taken_append_rest ..
    | exact number_taken_append_rest ..
    | exact text_taken_append_rest ..
    | exact path_taken_append_rest ..

theorem scan_rest_length (first : Char) (cs : List Char) :
    (scan first cs).rest.length ≤ cs.length := by
  have h := congrArg List.length (scan_taken_append_rest first cs)
  simp only [List.length_append] at h
  omega

end Lexeme

/-- The tokens of a text that begins `start` bytes into the whole. -/
def lexFrom (start : Nat) (cs : List Char) : List Token :=
  match cs with
  | [] => []
  | c :: cs =>
    if Text.isBlank c then lexFrom (start + c.utf8Size) cs
    else
      let lexeme := Lexeme.scan c cs
      let stop := start + utf8Length (c :: lexeme.taken)
      ⟨lexeme.kind, ⟨start, stop⟩⟩ :: lexFrom stop lexeme.rest
termination_by cs.length
decreasing_by
  · simp
  · have := Lexeme.scan_rest_length c cs
    simp only [List.length_cons]
    omega

theorem lexFrom_nil (start : Nat) : lexFrom start [] = [] := by
  rw [lexFrom.eq_def]

theorem lexFrom_cons (start : Nat) (c : Char) (cs : List Char) : lexFrom start (c :: cs) =
    if Text.isBlank c then lexFrom (start + c.utf8Size) cs
    else
      let lexeme := Lexeme.scan c cs
      let stop := start + utf8Length (c :: lexeme.taken)
      ⟨lexeme.kind, ⟨start, stop⟩⟩ :: lexFrom stop lexeme.rest := by
  rw [lexFrom.eq_def]

/-- The tokens of a filter text. -/
def lex (input : String) : List Token := lexFrom 0 input.toList

end RequestSql
