import RequestSql.Filter.Tree
import RequestSql.Json.Value

/-!
# Filters as JSON

The JSON form of a filter, for requests that carry the tree itself. A node is an object
with its kind and its fields, in any order and with other members that say nothing; or
an array of its kind and its fields in their order, whose last fields may be left out if
they have a default. `negated` is false if it is left out. A node of an unknown kind is
read as unsupported.

Key definitions: `Filter.toJson`, `Filter.ofJson?`.
-/

namespace RequestSql

/-- The path as the array of its segments. -/
def FieldPath.toJson (path : FieldPath) : Json := .texts path.segments

/-- The path that an array of texts is. -/
def FieldPath.ofJson? (json : Json) : Option FieldPath :=
  (json.array? Json.text?).map FieldPath.mk

namespace Filter

/-- The kinds of nodes. -/
inductive Kind where
  | logical
  | text
  | number
  | null
  | unsupported
deriving DecidableEq, Repr

/-- The kinds that are supported, under their names. -/
def kinds : List (String × Kind) :=
  [("logical", .logical), ("string", .text), ("number", .number), ("null", .null)]

/-- The name of a combinator. -/
def combinatorName : Combinator → String
  | .and => "and"
  | .or => "or"

/-- The name of an operator on texts. -/
def textOpName : TextOp → String
  | .eq => "eq"
  | .matching => "match"

/-- The name of an operator on numbers. -/
def numberOpName : NumberOp → String
  | .eq => "eq"
  | .gt => "gt"
  | .ge => "ge"
  | .lt => "lt"
  | .le => "le"

/-- The combinator that a JSON value names. -/
def combinator? : Json → Option Combinator :=
  Json.choice? ([.and, .or].map fun c => (combinatorName c, c))

/-- The operator on texts that a JSON value names. -/
def textOp? : Json → Option TextOp :=
  Json.choice? ([.eq, .matching].map fun op => (textOpName op, op))

/-- The operator on numbers that a JSON value names. -/
def numberOp? : Json → Option NumberOp :=
  Json.choice? ([.eq, .gt, .ge, .lt, .le].map fun op => (numberOpName op, op))

/-- The fields of a node of a kind, in their order. -/
def Kind.fieldNames : Kind → List String
  | logical => ["combinator", "negated", "left", "right"]
  | text => ["field_path", "op", "value", "negated"]
  | number => ["field_path", "op", "value", "negated"]
  | null => ["field_path", "negated"]
  | unsupported => []

/-- The JSON form of a filter: objects, with the kind first. -/
def toJson : Filter → Json
  | logical combinator negated left right =>
    .object [("kind", .text "logical"), ("combinator", .text (combinatorName combinator)),
      ("negated", .bool negated), ("left", left.toJson), ("right", right.toJson)]
  | text path op value negated =>
    .object [("kind", .text "string"), ("field_path", path.toJson),
      ("op", .text (textOpName op)), ("value", .text value), ("negated", .bool negated)]
  | number path op value negated =>
    .object [("kind", .text "number"), ("field_path", path.toJson),
      ("op", .text (numberOpName op)), ("value", .ofBinary64 value),
      ("negated", .bool negated)]
  | null path negated =>
    .object [("kind", .text "null"), ("field_path", path.toJson), ("negated", .bool negated)]
  | unsupported => .object [("kind", .text "unsupported")]

/-- The kind that a JSON value names. Inside another node it may also be given by its
position in the list of kinds. -/
def kind? (nested : Bool) : Json → Option Kind
  | .text name => some ((kinds.lookup name).getD .unsupported)
  | .number (.integer n) =>
    if nested && 0 ≤ n then some ((kinds[n.toNat]?.map (·.2)).getD .unsupported) else none
  | _ => none

/-- The kind and the fields of a node. -/
def node? (nested : Bool) : Json → Option (Kind × List (String × Json))
  | .object members => do
    let kind ← (members.lookup "kind").bind (kind? nested)
    return (kind, members)
  | .array (tag :: items) => do
    let kind ← kind? nested tag
    let fields ← (Json.array items).record? kind.fieldNames
    return (kind, fields)
  | _ => none

theorem sizeOf_lt_of_node? {nested : Bool} {json value : Json} {kind : Kind}
    {fields : List (String × Json)} {name : String}
    (h : node? nested json = some (kind, fields)) (hv : fields.lookup name = some value) :
    sizeOf value < sizeOf json := by
  have hmem := Json.mem_of_lookup hv
  unfold node? at h
  split at h
  · next members =>
    simp only [Option.pure_def, Option.bind_eq_bind, Option.bind_eq_some_iff, Option.some.injEq,
      Prod.mk.injEq] at h
    obtain ⟨-, -, -, rfl⟩ := h
    exact Json.sizeOf_lt_of_mem_object hmem
  · next tag items =>
    simp only [Option.pure_def, Option.bind_eq_bind, Option.bind_eq_some_iff, Option.some.injEq,
      Prod.mk.injEq, Json.record?] at h
    obtain ⟨kind', -, fields', hz, -, rfl⟩ := h
    split at hz
    · simp only [Option.some.injEq] at hz
      subst hz
      exact Json.sizeOf_lt_of_mem_array (List.mem_cons_of_mem _ (List.of_mem_zip hmem).2)
    · simp at hz
  · simp at h

/-- The filter that a JSON value is, `nested` inside another one or not. -/
def ofNode? (nested : Bool) (json : Json) : Option Filter :=
  match _h : node? nested json with
  | none => none
  | some (kind, fields) =>
    let path := Json.required fields "field_path" FieldPath.ofJson?
    let negated := Json.defaulted fields "negated" false Json.bool?
    match kind with
    | .logical =>
      match _hl : fields.lookup "left", _hr : fields.lookup "right" with
      | some left, some right => do
        let combinator ← Json.required fields "combinator" combinator?
        return logical combinator (← negated) (← ofNode? true left) (← ofNode? true right)
      | _, _ => none
    | .text => do
      let op ← Json.required fields "op" textOp?
      return text (← path) op (← Json.required fields "value" Json.text?) (← negated)
    | .number => do
      let op ← Json.required fields "op" numberOp?
      return number (← path) op (← Json.required fields "value" Json.binary64?) (← negated)
    | .null => do return null (← path) (← negated)
    | .unsupported => some unsupported
termination_by sizeOf json
decreasing_by
  · exact sizeOf_lt_of_node? _h _hl
  · exact sizeOf_lt_of_node? _h _hr

/-- The filter that a JSON value is. -/
def ofJson? (json : Json) : Option Filter := ofNode? false json

end Filter

end RequestSql
