import RequestSql.Json.Scalar

/-!
# Readers of JSON text

Readers for what a program wants to find in a text: texts, counts, lists, maps and
records. A record may be written as an object, whose unknown members are passed over, or
as an array of its fields in order. A value that nobody wants is passed over whatever it
holds: `Json.Reader.skip` keeps the open brackets on a stack, so depth is no limit.

Key definitions: `Json.Reader.text`, `Json.Reader.count`, `Json.Reader.list`,
`Json.Reader.foldObject`, `Json.Reader.record`, `Json.Reader.skip`,
`Json.Reader.value`, `Json.Reader.run`.
-/

namespace RequestSql.Json.Reader

/-! ### Scalars -/

/-- Reads a text. -/
def text : Reader String := fun cs =>
  match h : skipBlanks cs with
  | '"' :: rest => widen (Nat.le_of_lt (length_lt_of_skipBlanks h)) (contentFrom rest)
  | _ => .error (unwanted .text cs)

/-- Reads a text or `null`. -/
def optionalText : Reader (Option String) := fun cs =>
  match h : skipBlanks cs with
  | 'n' :: rest =>
    widen (by rw [← h]; exact skipBlanks_length cs) (constant none "ull" 'n' rest)
  | _ => map some text cs

/-- What is wrong with a number that is no count. -/
def notCount : JsonNumber → Cause
  | .integer n => .wrongValue n .count
  | .real x => .wrongType (.number (.real x)) .count

/-- Reads an integer of 64 bits without sign. -/
def count : Reader UInt64 := fun cs =>
  match h : skipBlanks cs with
  | [] => .error (.atEnd .value)
  | c :: rest =>
    if c == '-' || c.isDigit then
      match number (c :: rest) with
      | .error e => .error e
      | .ok ⟨(n, rest'), h'⟩ =>
        match (Json.number n).count? with
        | some n => .ok ⟨(n, rest'), by
            have := length_lt_of_skipBlanks h
            simp only [List.length_cons] at h'
            dsimp only at *
            omega⟩
        | none => .error (.before (notCount n) rest')
    else .error (unwanted .count cs)

/-! ### Arrays -/

/-- What a bracket holds: the value read in it, unless one was refused, which settles
where that fault is. -/
def bracketed {α : Type} {cs : List Char} (bracket : Bracket) :
    Except Fault (Found α cs) → Except Fault (Found α cs) :=
  Except.mapError (·.settle bracket)

/-- Where the loop over an array or object stands: before its first part, or after one. -/
inductive Turn where
  | first
  | later
deriving DecidableEq, Repr

/-- The text from the next item of an array on: after a comma, but for the first item. -/
def nextItem (turn : Turn) (cs : List Char) :
    Except Fault { rest : List Char // rest.length ≤ cs.length } :=
  match turn, h : skipBlanks cs with
  | .first, rest => .ok ⟨rest, by rw [← h]; exact skipBlanks_length cs⟩
  | .later, [] => .error (.atEnd .list)
  | .later, c :: rest =>
    if c = ',' then
      match h' : skipBlanks rest with
      | [] => .error (.atEnd .value)
      | d :: rest' =>
        if d = ']' then .error (.within (.malformed .trailingComma) (d :: rest'))
        else .ok ⟨d :: rest', by
          have := length_lt_of_skipBlanks h
          have := skipBlanks_length rest
          rw [h'] at this
          omega⟩
    else .error (.within (.malformed .itemEnd) (c :: rest))

/-- Reads the items of an array up to its closing bracket. -/
def itemsFrom {α : Type} (item : Reader α) (turn : Turn) (cs : List Char) :
    Except Fault (Found (List α) cs) :=
  match h : skipBlanks cs with
  | [] => .error (.atEnd .list)
  | c :: rest =>
    if c = ']' then .ok ⟨([], rest), length_lt_of_skipBlanks h⟩
    else
      match nextItem turn cs with
      | .error e => .error e
      | .ok ⟨start, hs⟩ =>
        match item start with
        | .error e => .error e
        | .ok ⟨(a, rest), h'⟩ =>
          mapFound (a :: ·)
            (widen (Nat.le_trans (Nat.le_of_lt h') hs) (itemsFrom item .later rest))
termination_by cs.length
decreasing_by exact Nat.lt_of_lt_of_le h' hs

/-- Reads an array of values of one kind. -/
def list {α : Type} (item : Reader α) : Reader (List α) := fun cs =>
  match h : skipBlanks cs with
  | '[' :: rest =>
    widen (Nat.le_of_lt (length_lt_of_skipBlanks h))
      (bracketed .array (itemsFrom item .first rest))
  | _ => .error (unwanted .list cs)

/-! ### Objects -/

/-- Passes over the colon after the name of a member. -/
def colon (cs : List Char) : Except Fault (Passed cs) :=
  match h : skipBlanks cs with
  | [] => .error (.atEnd .object)
  | c :: rest =>
    if c = ':' then .ok ⟨rest, length_lt_of_skipBlanks h⟩
    else .error (.within (.malformed .colon) (c :: rest))

/-- Reads the colon after the name of a member and its value. -/
def memberValue {α : Type} (value : Reader α) : Reader α := fun cs =>
  match colon cs with
  | .error e => .error e
  | .ok ⟨rest, h⟩ => widen (Nat.le_of_lt h) (value rest)

/-- The text after the opening quote of the next name in an object: after a comma, but
for the first member. -/
def nextName (turn : Turn) (cs : List Char) : Except Fault (Passed cs) :=
  match turn, h : skipBlanks cs with
  | _, [] => .error (.atEnd .object)
  | .first, c :: rest =>
    if c = '"' then .ok ⟨rest, length_lt_of_skipBlanks h⟩
    else .error (.within (.malformed .name) (c :: rest))
  | .later, c :: rest =>
    if c = ',' then
      match h' : skipBlanks rest with
      | [] => .error (.atEnd .value)
      | d :: rest' =>
        if d = '"' then
          .ok ⟨rest', Nat.lt_trans (length_lt_of_skipBlanks h') (length_lt_of_skipBlanks h)⟩
        else if d = '\x7d' then .error (.within (.malformed .trailingComma) (d :: rest'))
        else .error (.within (.malformed .name) (d :: rest'))
    else .error (.within (.malformed .memberEnd) (c :: rest))

/-- Reads the members of an object up to its closing brace and gathers what they say;
`member` reads what follows a name. -/
def membersFrom {σ : Type} (member : σ → String → Reader σ) (state : σ) (turn : Turn)
    (cs : List Char) : Except Fault (Found σ cs) :=
  match h : skipBlanks cs with
  | [] => .error (.atEnd .object)
  | c :: rest =>
    if c = '\x7d' then .ok ⟨(state, rest), length_lt_of_skipBlanks h⟩
    else
      match nextName turn cs with
      | .error e => .error e
      | .ok ⟨start, hs⟩ =>
        match contentFrom start with
        | .error e => .error e
        | .ok ⟨(name, afterName), hn⟩ =>
          match member state name afterName with
          | .error e => .error e
          | .ok ⟨(state, rest), h'⟩ =>
            widen (Nat.le_of_lt (Nat.lt_trans (Nat.lt_trans h' hn) hs))
              (membersFrom member state .later rest)
termination_by cs.length
decreasing_by exact Nat.lt_trans (Nat.lt_trans h' hn) hs

/-- Reads an object and gathers what its members say, from `state` on. -/
def foldObject {σ : Type} (member : σ → String → Reader σ) (state : σ) : Reader σ := fun cs =>
  match h : skipBlanks cs with
  | '\x7b' :: rest =>
    widen (Nat.le_of_lt (length_lt_of_skipBlanks h))
      (bracketed .object (membersFrom member state .first rest))
  | _ => .error (unwanted .map cs)

/-! ### Values that nobody wants -/

/-- Passes over what comes before the next value inside a bracket: nothing in an array,
a name and a colon in an object. -/
def skipName (bracket : Bracket) (cs : List Char) :
    Except Fault { rest : List Char // rest.length ≤ cs.length } :=
  match bracket with
  | .array => .ok (whole cs)
  | .object =>
    match h : skipBlanks cs with
    | [] => .error (.atEnd .object)
    | c :: rest =>
      if c = '"' then
        match textFrom anyUnit rest with
        | .error e => .error e
        | .ok ⟨(_, afterName), hn⟩ =>
          match colon afterName with
          | .error e => .error e
          | .ok ⟨value, hv⟩ =>
            .ok ⟨value, Nat.le_of_lt (Nat.lt_trans (Nat.lt_trans hv hn) (length_lt_of_skipBlanks h))⟩
      else .error (.within (.malformed .name) (c :: rest))

/-- Passes over a value that has no parts and begins with `c`. -/
def skipScalar (c : Char) (cs : List Char) : Except Fault (Found Unit (c :: cs)) :=
  if c = 'n' then constant () "ull" c cs
  else if c = 't' then constant () "rue" c cs
  else if c = 'f' then constant () "alse" c cs
  else if c = '"' then
    widen (length_le_cons c cs) (mapFound (fun _ => ()) (textFrom anyUnit cs))
  else if c == '-' || c.isDigit then
    mapFound (fun _ => ()) (numeral (.malformed .number) (c :: cs))
  else .error (.within (.malformed .value) (c :: cs))

/-- What the loop over an unwanted value expects next. -/
inductive Wanted where
  /-- A value. -/
  | value
  /-- The first part of the innermost bracket, or its end. -/
  | first
  /-- A comma or the end of the innermost bracket; the end of all if none is open. -/
  | separator
deriving DecidableEq, Repr

/-- How often the loop may go on without a character less. -/
def Wanted.rank : Wanted → Nat
  | value => 0
  | first => 1
  | separator => 0

/-- How many characters have to be passed over at least. -/
def Wanted.least : Wanted → Nat
  | value => 1
  | first => 0
  | separator => 0

/-- The same rest of a longer text. -/
def widenRest {cs cs' : List Char} {m n : Nat} (h : cs'.length + m ≤ cs.length + n) :
    Except Fault { rest : List Char // rest.length + n ≤ cs'.length } →
      Except Fault { rest : List Char // rest.length + m ≤ cs.length }
  | .error e => .error e
  | .ok ⟨rest, shorter⟩ => .ok ⟨rest, by omega⟩

/-- Passes over an unwanted value; `stack` holds the open brackets, the innermost first. -/
def skipFrom (stack : List Bracket) (wanted : Wanted) (cs : List Char) :
    Except Fault { rest : List Char // rest.length + wanted.least ≤ cs.length } :=
  match wanted, stack with
  | .value, stack =>
    match h : skipBlanks cs with
    | [] => .error (.atEnd .value)
    | c :: rest =>
      have hr : rest.length < cs.length := length_lt_of_skipBlanks h
      if c = '[' then widenRest hr (skipFrom (.array :: stack) .first rest)
      else if c = '\x7b' then widenRest hr (skipFrom (.object :: stack) .first rest)
      else
        match skipScalar c rest with
        | .error e => .error e
        | .ok ⟨(_, rest'), h'⟩ =>
          have hr' : rest'.length < cs.length :=
            Nat.lt_of_lt_of_le h' (by rw [← h]; exact skipBlanks_length cs)
          widenRest hr' (skipFrom stack .separator rest')
  | .first, [] => .ok ⟨cs, Nat.le_refl _⟩
  | .separator, [] => .ok ⟨cs, Nat.le_refl _⟩
  | .first, bracket :: stack =>
    match h : skipBlanks cs with
    | [] => .error (.atEnd bracket.part)
    | c :: rest =>
      have hr : rest.length < cs.length := length_lt_of_skipBlanks h
      if c = bracket.closing then
        widenRest (Nat.le_of_lt hr) (skipFrom stack .separator rest)
      else
        match skipName bracket cs with
        | .error e => .error e
        | .ok ⟨value, hv⟩ =>
          widenRest (Nat.le_succ_of_le hv) (skipFrom (bracket :: stack) .value value)
  | .separator, bracket :: stack =>
    match h : skipBlanks cs with
    | [] => .error (.atEnd bracket.part)
    | c :: rest =>
      have hr : rest.length < cs.length := length_lt_of_skipBlanks h
      if c = bracket.closing then
        widenRest (Nat.le_of_lt hr) (skipFrom stack .separator rest)
      else if c = ',' then
        match skipName bracket rest with
        | .error e => .error e
        | .ok ⟨value, hv⟩ =>
          widenRest (Nat.le_succ_of_le (Nat.le_trans hv (Nat.le_of_lt hr)))
            (skipFrom (bracket :: stack) .value value)
      else .error (.within (.malformed bracket.flaw) (c :: rest))
termination_by 2 * cs.length + wanted.rank
decreasing_by all_goals simp only [Wanted.rank]; omega

/-- Passes over a value that nobody wants. -/
def skip : Reader Unit := fun cs =>
  match skipFrom [] .value cs with
  | .error e => .error e
  | .ok ⟨rest, h⟩ => .ok ⟨((), rest), h⟩

/-! ### Records -/

/-- A field of a record: its name, whether a state has it already, and how it is read
into one. -/
structure Field (σ : Type) where
  name : String
  isSet : σ → Bool
  read : σ → Reader σ

/-- A field whose value is read by `value` and put into a state by `set`. -/
def field {σ α : Type} (name : String) (get : σ → Option α) (set : σ → α → σ)
    (value : Reader α) : Field σ :=
  ⟨name, fun state => (get state).isSome, fun state => map (set state) value⟩

/-- Reads what follows the name of a member of a record: a known field must be a new
one, any other member is passed over. -/
def fieldMember {σ : Type} (fields : List (Field σ)) (state : σ) (name : String) : Reader σ :=
  fun cs =>
    match fields.find? (·.name == name) with
    | some field =>
      if field.isSet state then .error (.after (.repeatedField name) cs)
      else memberValue (field.read state) cs
    | none => map (fun _ => state) (memberValue skip) cs

/-- What is wrong with a record written as an array that goes on after its last field. -/
def extraItem (cs : List Char) : Fault :=
  match skipBlanks cs with
  | ',' :: rest =>
    match skipBlanks rest with
    | ']' :: rest' => .within (.malformed .trailingComma) (']' :: rest')
    | rest' => .within (.malformed .trailingText) rest'
  | rest => .within (.malformed .trailingText) rest

/-- Reads a record written as an array of its fields, up to the closing bracket; the last
fields may be left out. -/
def fieldsFrom {σ : Type} (fields : List (Field σ)) (turn : Turn) (state : σ)
    (cs : List Char) : Except Fault (Found σ cs) :=
  match h : skipBlanks cs with
  | [] => .error (.atEnd .list)
  | c :: rest =>
    if c = ']' then .ok ⟨(state, rest), length_lt_of_skipBlanks h⟩
    else
      match fields with
      | [] => .error (extraItem cs)
      | field :: fields =>
        match nextItem turn cs with
        | .error e => .error e
        | .ok ⟨start, hs⟩ =>
          match field.read state start with
          | .error e => .error e
          | .ok ⟨(state, rest), h'⟩ =>
            widen (Nat.le_trans (Nat.le_of_lt h') hs) (fieldsFrom fields .later state rest)

/-- What `finish` makes of a value, which it may refuse. -/
def finishWith {α β : Type} {cs : List Char} (finish : α → List Char → Except Fault β) :
    Except Fault (Found α cs) → Except Fault (Found β cs)
  | .error e => .error e
  | .ok ⟨(a, rest), h⟩ =>
    match finish a rest with
    | .ok b => .ok ⟨(b, rest), h⟩
    | .error e => .error e

/-- A field that is needed, or its name. -/
def needed {α : Type} (name : String) : Option α → Except String α
  | some a => .ok a
  | none => .error name

/-- Reads a record, an object or an array of its fields, and finishes it; `finish` gives
the name of a field that is needed and was left out. -/
def record {σ α : Type} (name : String) (fields : List (Field σ)) (empty : σ)
    (finish : σ → Except String α) : Reader α := fun cs =>
  match h : skipBlanks cs with
  | '\x7b' :: rest =>
    let missing (field : String) : Cause := .missingField field
    widen (Nat.le_of_lt (length_lt_of_skipBlanks h)) <|
      finishWith (fun state left => (finish state).mapError fun f => .before (missing f) left) <|
        bracketed .object (membersFrom (fieldMember fields) empty .first rest)
  | '[' :: rest =>
    let missing (field : String) : Cause :=
      .tooFewItems (fields.findIdx (·.name == field)) name fields.length
    widen (Nat.le_of_lt (length_lt_of_skipBlanks h)) <|
      finishWith (fun state left => (finish state).mapError fun f => .before (missing f) left) <|
        bracketed .array (fieldsFrom fields .first empty rest)
  | _ => .error (unwanted (.record name) cs)

/-! ### Values of any form -/

/-- Members with one more; a member of the same name is replaced. -/
def addMember (members : List (String × Json)) (name : String) (value : Json) :
    List (String × Json) :=
  members.filter (·.1 != name) ++ [(name, value)]

/-- Reads a value of any form, in which arrays and objects are nested `depth` levels deep
at most. -/
def value (depth : Nat) : Reader Json := fun cs =>
  match h : skipBlanks cs with
  | [] => .error (.atEnd .value)
  | c :: rest =>
    have hr : rest.length < cs.length := length_lt_of_skipBlanks h
    have hc : (c :: rest).length ≤ cs.length := hr
    if c = 'n' then widen hc (constant .null "ull" c rest)
    else if c = 't' then widen hc (constant (.bool true) "rue" c rest)
    else if c = 'f' then widen hc (constant (.bool false) "alse" c rest)
    else if c = '"' then widen (Nat.le_of_lt hr) (mapFound .text (contentFrom rest))
    else if c == '-' || c.isDigit then widen hc (mapFound .number (number (c :: rest)))
    else
      match depth with
      | 0 =>
        .error (.within (.malformed (if c = '[' ∨ c = '\x7b' then .tooDeep else .value)) (c :: rest))
      | depth + 1 =>
        if c = '[' then
          widen (Nat.le_of_lt hr) (mapFound .array (itemsFrom (value depth) .first rest))
        else if c = '\x7b' then
          widen (Nat.le_of_lt hr) <| mapFound .object <|
            membersFrom
              (fun members name => memberValue (map (addMember members name) (value depth)))
              [] .first rest
        else .error (.within (.malformed .value) (c :: rest))

/-! ### Whole texts -/

/-- What a whole text is read as; only blanks may follow. -/
def run {α : Type} (reader : Reader α) (input : String) : Except TextFault α :=
  let cs := input.toList
  match reader cs with
  | .error e => .error (e.inText cs)
  | .ok ⟨(a, rest), _⟩ =>
    match skipBlanks rest with
    | [] => .ok a
    | c :: rest => .error ((Fault.within (.malformed .trailingText) (c :: rest)).inText cs)

end RequestSql.Json.Reader
