import RequestSql.Error
import RequestSql.Json.Value
import RequestSql.Filter.Wire

/-!
# Requests

What a request may ask of a listing: a filter, an order, a page and a selection of
fields, each of which may be absent. A `Request` gives the four operators, any of which
may turn out not to be readable; `Operators` holds them as values.

Key definitions: `SortCriterion`, `Pagination`, `FieldSelection`, `Request`,
`Operators`.
-/

namespace RequestSql

/-- One criterion of an order. -/
structure SortCriterion where
  /-- The field path, written with dots. -/
  tag : String
  descending : Bool
deriving DecidableEq, Repr

/-- A page of a listing; a limit of zero stands for none. -/
structure Pagination where
  offset : UInt64
  limit : UInt64
deriving DecidableEq, Repr

/-- The fields that are wanted, or those that are not. -/
structure FieldSelection where
  /-- Field paths, written with dots. -/
  fields : List String
  /-- Whether all but these are wanted. -/
  inverted : Bool
deriving DecidableEq, Repr

/-- The operators of a request, as far as they can be read. -/
structure Request where
  filter : Except RequestError (Option Filter)
  sorting : Except RequestError (Option (List SortCriterion))
  pagination : Except RequestError (Option Pagination)
  selection : Except RequestError (Option FieldSelection)

/-- The operators of a request. -/
structure Operators where
  filter : Option Filter
  sorting : Option (List SortCriterion)
  pagination : Option Pagination
  selection : Option FieldSelection
deriving DecidableEq, Repr

namespace Operators

/-- The request for given operators. -/
def request (operators : Operators) : Request :=
  ⟨.ok operators.filter, .ok operators.sorting, .ok operators.pagination,
    .ok operators.selection⟩

end Operators

/-! ### JSON forms -/

/-- The criterion that a JSON value is; it ascends where nothing is said. -/
def SortCriterion.ofJson? (json : Json) : Option SortCriterion := do
  let fields ← json.record? ["tag", "desc"]
  let tag ← Json.required fields "tag" Json.text?
  let descending ← Json.defaulted fields "desc" false Json.bool?
  return ⟨tag, descending⟩

/-- The order that a JSON value is. -/
def sorting? (json : Json) : Option (List SortCriterion) := do
  let fields ← json.record? ["criteria"]
  Json.required fields "criteria" (Json.array? SortCriterion.ofJson?)

/-- The page that a JSON value is; counts that are left out are zero. -/
def Pagination.ofJson? (json : Json) : Option Pagination := do
  let fields ← json.record? ["offset", "limit"]
  let offset ← Json.defaulted fields "offset" 0 Json.count?
  let limit ← Json.defaulted fields "limit" 0 Json.count?
  return ⟨offset, limit⟩

/-- The selection that a JSON value is. -/
def FieldSelection.ofJson? (json : Json) : Option FieldSelection := do
  let fields ← json.record? ["fields", "inverted"]
  let paths ← Json.required fields "fields" (Json.array? Json.text?)
  let inverted ← Json.defaulted fields "inverted" false Json.bool?
  return ⟨paths, inverted⟩

end RequestSql
