import RequestSql.Request.Operators
import RequestSql.Scope

/-!
# Preloads

A field selection implies which associated entities are loaded along: those that it
names or crosses, in the order of their first appearance; or, where it says what is not
wanted, all but those that it names outright, by ascending name.

Key definitions: `Selected`, `Scope.selected`, `preloadsOf`, `resolvePreloads`.
-/

namespace RequestSql

/-- The association that one path of a selection needs. -/
structure Selected where
  association : Option String
  /-- Whether the path is the association itself. -/
  outright : Bool
deriving DecidableEq, Repr

/-- What one path of a selection needs. -/
def Scope.selected (scope : Scope) (path : String) : Except CompileError Selected :=
  (scope.resolveSelection path).map (⟨·, !path.toList.contains '.'⟩)

/-- A list without the later repetitions of its items. -/
def firstAppearances : List String → List String
  | [] => []
  | name :: names => name :: (firstAppearances names).filter (· != name)

/-- The associations to load along. -/
def preloadsOf (scope : Scope) (inverted : Bool) (selected : List Selected) : List String :=
  if inverted then
    let excluded := (selected.filter (·.outright)).filterMap (·.association)
    scope.entity.associations.names.filter (!excluded.contains ·)
  else firstAppearances (selected.filterMap (·.association))

/-- The associations to load along for a selection that may be absent. -/
def resolvePreloads (scope : Scope) :
    Option FieldSelection → Except CompileError (List String)
  | none => .ok []
  | some selection =>
    (selection.fields.mapM scope.selected).map (preloadsOf scope selection.inverted)

end RequestSql
