import RequestSql.Request.Operators

/-!
# Windows

The rows of a listing that a statement is limited to. A page without a limit has the one
that is configured.

Key definitions: `Window`, `Pagination.window`.
-/

namespace RequestSql

/-- How many rows are left out first, and how many are listed at most. -/
structure Window where
  offset : UInt64
  limit : UInt64
deriving DecidableEq, Repr

/-- The window of a page. -/
def Pagination.window (defaultLimit : UInt64) (page : Pagination) : Window :=
  ⟨page.offset, if page.limit = 0 then defaultLimit else page.limit⟩

end RequestSql
