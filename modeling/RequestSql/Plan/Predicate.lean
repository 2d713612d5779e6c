import RequestSql.Filter.Tree
import RequestSql.Scope

/-!
# Predicates

A predicate is a filter whose paths have become columns. In SQL text every node has its
own parentheses, `NOT` before them negates exactly that node, and a value is a `?`; the
values are kept beside the text, in the order of the marks, so no text of a request ever
gets into a statement.

Key definitions: `Param`, `Predicate`, `Predicate.text`, `Predicate.params`.
-/

namespace RequestSql

/-- A value that a statement is given beside its text. -/
inductive Param where
  | text (content : String)
  | number (value : Binary64)
deriving DecidableEq, Repr

/-- How a column is compared with a value. -/
inductive CompareOp where
  | eq
  | matching
  | gt
  | ge
  | lt
  | le
deriving DecidableEq, Repr

/-- The operator in SQL text. -/
def CompareOp.text : CompareOp → String
  | eq => "="
  | matching => "~"
  | gt => ">"
  | ge => ">="
  | lt => "<"
  | le => "<="

/-- The operator of a condition on a text. -/
def TextOp.compare : TextOp → CompareOp
  | eq => .eq
  | matching => .matching

/-- The operator of a condition on a number. -/
def NumberOp.compare : NumberOp → CompareOp
  | eq => .eq
  | gt => .gt
  | ge => .ge
  | lt => .lt
  | le => .le

/-- The combinator in SQL text. -/
def Combinator.keyword : Combinator → String
  | and => "AND"
  | or => "OR"

/-- A filter over columns. -/
inductive Predicate where
  | compare (column : Column) (op : CompareOp) (param : Param) (negated : Bool)
  | isNull (column : Column) (negated : Bool)
  | logical (combinator : Combinator) (negated : Bool) (left right : Predicate)
deriving DecidableEq, Repr

namespace Predicate

/-- What stands before the parentheses of a node. -/
def negation (negated : Bool) : String := if negated then "NOT" else ""

/-- The SQL text, with a `?` for every value. -/
def text : Predicate → String
  | compare column op _ negated =>
    negation negated ++ "(" ++ column.text ++ " " ++ op.text ++ " ?)"
  | isNull column negated => negation negated ++ "(" ++ column.text ++ " IS NULL)"
  | logical combinator negated left right =>
    negation negated ++ "(" ++ left.text ++ " " ++ combinator.keyword ++ " " ++ right.text ++
      ")"

/-- The values, in the order of their marks. -/
def params : Predicate → List Param
  | compare _ _ param _ => [param]
  | isNull _ _ => []
  | logical _ _ left right => left.params ++ right.params

/-- How many values there are. -/
def paramCount : Predicate → Nat
  | compare .. => 1
  | isNull .. => 0
  | logical _ _ left right => left.paramCount + right.paramCount

end Predicate

end RequestSql
