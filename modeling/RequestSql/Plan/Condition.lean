import RequestSql.Names.Set
import RequestSql.Plan.Predicate

/-!
# Compiling filters

A filter is compiled leaf by leaf, from left to right: every path is resolved in the
scope, the associations that are crossed are gathered, and the first leaf that fails
fails the whole.

Key definitions: `Filter.compile`, `CompiledFilter`, `compileFilter`,
`compileFilterText`.
-/

namespace RequestSql

/-- A condition on the column that a path leads to, and the association on the way. -/
def Scope.condition (scope : Scope) (path : FieldPath) (leaf : Column → Predicate) :
    Except CompileError (Predicate × NameSet) :=
  match scope.resolve path with
  | .error e => .error e
  | .ok resolved => .ok (leaf resolved.column, .ofList resolved.association.toList)

/-- The predicate of a filter and the associations that its paths cross. -/
def Filter.compile (scope : Scope) : Filter → Except CompileError (Predicate × NameSet)
  | logical combinator negated left right =>
    match left.compile scope with
    | .error e => .error e
    | .ok (l, ls) =>
      match right.compile scope with
      | .error e => .error e
      | .ok (r, rs) => .ok (.logical combinator negated l r, ls.union rs)
  | text path op value negated =>
    scope.condition path (.compare · op.compare (.text value) negated)
  | number path op value negated =>
    scope.condition path (.compare · op.compare (.number value) negated)
  | null path negated => scope.condition path (.isNull · negated)
  | unsupported => .error .unsupportedNode

/-- A filter that may be absent, compiled. -/
structure CompiledFilter where
  predicate : Option Predicate
  /-- The associations that its paths cross. -/
  associations : NameSet
deriving DecidableEq, Repr

namespace CompiledFilter

/-- No filter. -/
def absent : CompiledFilter := ⟨none, .empty⟩

/-- The SQL text; it is empty if there is no filter. -/
def text (f : CompiledFilter) : String :=
  match f.predicate with
  | none => ""
  | some predicate => predicate.text

/-- The values, in the order of their marks. -/
def params (f : CompiledFilter) : List Param :=
  match f.predicate with
  | none => []
  | some predicate => predicate.params

end CompiledFilter

/-- Compiles a filter that may be absent. -/
def compileFilter (scope : Scope) : Option Filter → Except CompileError CompiledFilter
  | none => .ok .absent
  | some filter =>
    match filter.compile scope with
    | .error e => .error e
    | .ok (predicate, associations) => .ok ⟨some predicate, associations⟩

/-- Reads a filter and then compiles it for an entity. -/
def compileFilterText (catalog : Catalog) (entityName input : String) :
    Except CompileError CompiledFilter :=
  match parseFilter input with
  | .error e => .error (.request (.filter e))
  | .ok filter =>
    match Scope.of? catalog entityName with
    | .error e => .error e
    | .ok scope => compileFilter scope (some filter)

end RequestSql
