import RequestSql.Filter.Path
import RequestSql.Number.Binary64

/-!
# Filter trees

A filter is a tree: its leaves are conditions on one field, its inner nodes join two
filters, and every node but an unsupported one can be negated as a whole. A node of a
kind that this library does not know is kept as `unsupported`, so that a request which
holds one can still be read; compiling it is refused.

Key definitions: `Filter`, `Filter.negate`, `Filter.and`, `Filter.or`.
-/

namespace RequestSql

/-- How a logical node joins its operands. -/
inductive Combinator where
  | and
  | or
deriving DecidableEq, Repr

/-- What a text is tested for: equality, or a match with a pattern. -/
inductive TextOp where
  | eq
  | matching
deriving DecidableEq, Repr

/-- How a number is compared. -/
inductive NumberOp where
  | eq
  | gt
  | ge
  | lt
  | le
deriving DecidableEq, Repr

/-- A filter. -/
inductive Filter where
  | logical (combinator : Combinator) (negated : Bool) (left right : Filter)
  | text (path : FieldPath) (op : TextOp) (value : String) (negated : Bool)
  | number (path : FieldPath) (op : NumberOp) (value : Binary64) (negated : Bool)
  /-- The field has no value. -/
  | null (path : FieldPath) (negated : Bool)
  | unsupported
deriving DecidableEq, Repr

namespace Filter

/-- The opposite filter: the node's own mark is flipped. -/
def negate : Filter → Filter
  | logical combinator negated left right => logical combinator (!negated) left right
  | text path op value negated => text path op value (!negated)
  | number path op value negated => number path op value (!negated)
  | null path negated => null path (!negated)
  | unsupported => unsupported

/-- Both filters hold. -/
def and (left right : Filter) : Filter := logical .and false left right

/-- One of the filters holds. -/
def or (left right : Filter) : Filter := logical .or false left right

@[simp] theorem negate_negate (f : Filter) : f.negate.negate = f := by
  cases f <;> simp [negate]

end Filter

end RequestSql
