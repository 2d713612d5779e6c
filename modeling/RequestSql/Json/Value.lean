import RequestSql.Number.Binary64

/-!
# JSON values

A JSON value, with the two kinds of number that JSON text is read into: integers that
fit 64 bits, with or without sign, and double precision numbers for all others. The
members of an object are kept in order.

Key definitions: `Json`, `Json.member?`.
-/

namespace RequestSql

/-- A number of JSON text. -/
inductive JsonNumber where
  /-- An integer from `-2 ^ 63` to `2 ^ 64 - 1`. -/
  | integer (value : Int)
  | real (value : Binary64)
deriving DecidableEq, Repr

/-- A JSON value. -/
inductive Json where
  | null
  | bool (value : Bool)
  | number (value : JsonNumber)
  | text (content : String)
  | array (items : List Json)
  | object (members : List (String × Json))
deriving Repr

/-- The double precision number nearest to a JSON number. -/
def JsonNumber.toBinary64 : JsonNumber → Binary64
  | integer value => .ofInt value
  | real value => value

namespace Json

/-- A natural as a JSON value. -/
def nat (n : Nat) : Json := number (.integer n)

/-- A count as a JSON value. -/
def count (n : UInt64) : Json := nat n.toNat

/-- An array of texts. -/
def texts (contents : List String) : Json := array (contents.map text)

/-- A double precision number as a JSON value; there is none for an infinity. -/
def ofBinary64 (x : Binary64) : Json := if x.isFinite then number (.real x) else null

/-- The member of an object with this name. -/
def member? (name : String) : Json → Option Json
  | object members => members.lookup name
  | _ => none

/-- The content of a text. -/
def text? : Json → Option String
  | text content => some content
  | _ => none

/-- The truth value. -/
def bool? : Json → Option Bool
  | bool value => some value
  | _ => none

/-- The number nearest to a JSON number. -/
def binary64? : Json → Option Binary64
  | number n => some n.toBinary64
  | _ => none

/-- The count that an integer of 64 bits without sign is. -/
def count? : Json → Option UInt64
  | number (.integer n) => if 0 ≤ n ∧ n < Nat.pow 2 64 then some (.ofNat n.toNat) else none
  | _ => none

/-- What every item of an array is read as. -/
def array? {α : Type} (item : Json → Option α) : Json → Option (List α)
  | array items => items.mapM item
  | _ => none

/-- The fields of a record: the members of an object, or the items of an array under the
names that the record declares, in order. An array of more items is no record. -/
def record? (names : List String) : Json → Option (List (String × Json))
  | object members => some members
  | array items => if items.length ≤ names.length then some (names.zip items) else none
  | _ => none

/-- A field of a record that has to be there, read by `read`. -/
def required {α : Type} (fields : List (String × Json)) (name : String)
    (read : Json → Option α) : Option α :=
  (fields.lookup name).bind read

/-- A field of a record that stands for `default` where it is left out. -/
def defaulted {α : Type} (fields : List (String × Json)) (name : String) (default : α)
    (read : Json → Option α) : Option α :=
  match fields.lookup name with
  | none => some default
  | some value => read value

/-- One of several named things: its name, or an object with nothing under its name. -/
def choice? {α : Type} (choices : List (String × α)) : Json → Option α
  | text name => choices.lookup name
  | object [(name, null)] => choices.lookup name
  | object [(name, object [])] => choices.lookup name
  | _ => none

theorem sizeOf_lt_of_mem_object {members : List (String × Json)} {name : String} {value : Json}
    (h : (name, value) ∈ members) : sizeOf value < sizeOf (object members) := by
  have := List.sizeOf_lt_of_mem h
  simp only [Prod.mk.sizeOf_spec] at this
  simp only [object.sizeOf_spec]
  omega

theorem sizeOf_lt_of_mem_array {items : List Json} {value : Json} (h : value ∈ items) :
    sizeOf value < sizeOf (array items) := by
  have := List.sizeOf_lt_of_mem h
  simp only [array.sizeOf_spec]
  omega

theorem mem_of_lookup {fields : List (String × Json)} {name : String} {value : Json}
    (h : fields.lookup name = some value) : (name, value) ∈ fields := by
  induction fields with
  | nil => simp at h
  | cons field fields ih =>
    obtain ⟨key, v⟩ := field
    rw [List.lookup_cons] at h
    split at h
    · next hk => simp_all
    · exact List.mem_cons_of_mem _ (ih h)

end Json

end RequestSql
