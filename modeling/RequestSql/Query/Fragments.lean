import RequestSql.Query.Builder

/-!
# Fragments

The plainest builder keeps the parts of a query as they come, as texts: for programs
that put statements together themselves.

Key definition: `Fragments`.
-/

namespace RequestSql

/-- The parts of a query. -/
structure Fragments where
  /-- Texts of predicates and the values of their marks. -/
  predicates : List (String × List Param)
  order : List String
  joins : List String
  window : Option Window
  preloads : List String
deriving DecidableEq, Repr

namespace Fragments

/-- No parts. -/
def empty : Fragments := ⟨[], [], [], none, []⟩

instance : Builder Fragments where
  filter f text params := { f with predicates := f.predicates ++ [(text, params)] }
  orderBy f term := { f with order := f.order ++ [term.text] }
  join f join := { f with joins := f.joins ++ [join.text] }
  paginate f window := { f with window := some window }
  preload f association := { f with preloads := f.preloads ++ [association] }

end Fragments

end RequestSql
