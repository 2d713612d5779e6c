import RequestSql.Query.Builder
import RequestSql.Query.Splice

/-!
# Select statements

The builder of whole statements. A `Select` keeps what has been added; its pieces are
the statement with the parts in the order that SQL wants. Tables and columns of the
skeleton are quoted, predicates stand as they are: alone, or each in parentheses.

Key definitions: `Select`, `Select.pieces`, `Select.sql`, `Select.values`,
`Select.inlined`.
-/

namespace RequestSql

/-- A statement that lists the rows of a table. -/
structure Select where
  table : String
  joins : List Join
  /-- Texts of predicates and the values of their marks. -/
  conditions : List (String × List Param)
  order : List OrderTerm
  window : Option Window
  /-- The associations to load along, each once. -/
  preloads : List String
deriving DecidableEq, Repr

namespace Select

/-- The statement that lists all rows of a table. -/
def ofTable (table : String) : Select := ⟨table, [], [], [], none, []⟩

instance : Builder Select where
  filter s text params := { s with conditions := s.conditions ++ [(text, params)] }
  orderBy s term := { s with order := s.order ++ [term] }
  join s join := { s with joins := s.joins ++ [join] }
  paginate s window := { s with window := some window }
  preload s association :=
    if s.preloads.contains association then s
    else { s with preloads := s.preloads ++ [association] }

/-- A name in double quotes; a quote in it is written twice. -/
def quotedName (name : String) : String :=
  String.ofList ('"' :: name.toList.flatMap (fun c => if c = '"' then [c, c] else [c]) ++ ['"'])

/-- A column, its parts quoted. -/
def quotedColumn (column : Column) : String :=
  quotedName column.table ++ "." ++ quotedName column.name

/-- The condition of a join; without key pairs it always holds. -/
def joinCondition (join : Join) : String :=
  if join.keyPairs.isEmpty then "TRUE"
  else
    " AND ".intercalate <|
      join.keyPairs.map fun pair => quotedColumn pair.1 ++ " = " ++ quotedColumn pair.2

/-- A join, with the space before it. -/
def joinText (join : Join) : String :=
  " LEFT JOIN " ++ quotedName join.table ++ " ON " ++ joinCondition join

/-- A term of the order. -/
def orderText (term : OrderTerm) : String :=
  quotedColumn term.column ++ if term.descending then " DESC" else " ASC"

/-- The list of columns and the tables. -/
def headText (s : Select) : String :=
  "SELECT " ++ quotedName s.table ++ ".* FROM " ++ quotedName s.table ++
    String.join (s.joins.map joinText)

/-- A predicate in parentheses. -/
def enclosed (condition : String × List Param) : List Piece :=
  .text "(" :: splice condition.1 condition.2 ++ [.text ")"]

/-- The pieces of `WHERE`. -/
def wherePieces : List (String × List Param) → List Piece
  | [] => []
  | [(text, params)] => .text " WHERE " :: splice text params
  | condition :: conditions =>
    .text " WHERE " :: enclosed condition ++
      conditions.flatMap fun condition => .text " AND " :: enclosed condition

/-- The text of `ORDER BY`. -/
def orderClause (terms : List OrderTerm) : String :=
  if terms.isEmpty then "" else " ORDER BY " ++ ", ".intercalate (terms.map orderText)

/-- The pieces of `LIMIT` and `OFFSET`. -/
def windowPieces : Option Window → List Piece
  | none => []
  | some window =>
    [.text " LIMIT ", .value (.count window.limit), .text " OFFSET ",
      .value (.count window.offset)]

/-- The pieces of the statement. -/
def pieces (s : Select) : List Piece :=
  .text s.headText :: wherePieces s.conditions ++ .text (orderClause s.order) ::
    windowPieces s.window

/-- The text of the statement, with numbered marks. -/
def sql (s : Select) : String := numberedText s.pieces

/-- The values that the marks of the statement stand for. -/
def values (s : Select) : List Value := boundValues s.pieces

/-- The text of the statement with literals, for showing. -/
def inlined (s : Select) : String := inlinedText s.pieces

end Select

end RequestSql
