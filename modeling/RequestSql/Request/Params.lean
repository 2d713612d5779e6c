import RequestSql.Json.Reader
import RequestSql.Request.Operators

/-!
# Request parameters

The operators of a request as texts: a filter in the filter language, an order as
criteria between commas, fields as paths between commas, and counts in decimal digits. A
parameter that holds nothing but blanks counts as absent.

Key definitions: `Params`, `Params.request`, `parseSorting`, `Params.reader`.
-/

namespace RequestSql

/-- The parameters of a request. -/
structure Params where
  filter : Option String
  orderBy : Option String
  fields : Option String
  excludeFields : Option String
  offset : Option String
  limit : Option String
deriving DecidableEq, Repr

/-- The trimmed text of a parameter that is not blank. -/
def present? (param : Option String) : Option String :=
  match param with
  | none => none
  | some text =>
    let trimmed := Text.trim text.toList
    if trimmed.isEmpty then none else some (String.ofList trimmed)

/-- A text in lower case, as far as it is ASCII. -/
def lowerCase (text : List Char) : List Char := text.map Char.toLower

/-- Whether a word says that a criterion descends. -/
def direction? (word : List Char) : Option Bool :=
  if lowerCase word = "asc".toList then some false
  else if lowerCase word = "desc".toList then some true
  else none

/-- The criterion that a piece of the sort parameter is: a field path and perhaps a
direction. -/
def parseCriterion (piece : String) : Except RequestError SortCriterion :=
  let refused : RequestError := .sorting (String.ofList (Text.trim piece.toList))
  match Text.words piece.toList with
  | [] => .error (.sorting piece)
  | [tag] =>
    let tag := String.ofList tag
    if FieldPath.isName tag then .ok ⟨tag, false⟩ else .error refused
  | [tag, word] =>
    let tag := String.ofList tag
    match direction? word with
    | some descending =>
      if FieldPath.isName tag then .ok ⟨tag, descending⟩ else .error refused
    | none => .error refused
  | _ => .error refused

/-- The order that a sort parameter says. -/
def parseSorting (input : String) : Except RequestError (List SortCriterion) :=
  (Text.pieces ',' input).mapM parseCriterion

/-- The field path that a piece of a field list is. -/
def parseField (piece : String) : Except RequestError String :=
  let trimmed := String.ofList (Text.trim piece.toList)
  if FieldPath.isName trimmed then .ok trimmed else .error (.notFieldPath trimmed)

/-- The selection that a field list says. -/
def parseSelection (inverted : Bool) (input : String) : Except RequestError FieldSelection :=
  ((Text.pieces ',' input).mapM parseField).map (⟨·, inverted⟩)

/-- The count that decimal digits say, which may have a plus sign before them. -/
def parseCount? (text : List Char) : Option UInt64 :=
  let digits := match text with
    | '+' :: digits => digits
    | _ => text
  if !digits.isEmpty && digits.all Char.isDigit && digitsValue digits < Nat.pow 2 64 then
    some (.ofNat (digitsValue digits))
  else none

/-- The count that a parameter says, if it is present. -/
def parseCount (name : String) (param : Option String) :
    Except RequestError (Option UInt64) :=
  match present? param with
  | none => .ok none
  | some text =>
    match parseCount? text.toList with
    | some count => .ok (some count)
    | none => .error (.pagination name text)

namespace Params

/-- No parameters. -/
def empty : Params := ⟨none, none, none, none, none, none⟩

/-- The filter. -/
def readFilter (params : Params) : Except RequestError (Option Filter) :=
  match present? params.filter with
  | none => .ok none
  | some text =>
    match parseFilter text with
    | .error e => .error (.filter e)
    | .ok filter => .ok (some filter)

/-- The order. -/
def readSorting (params : Params) : Except RequestError (Option (List SortCriterion)) :=
  match present? params.orderBy with
  | none => .ok none
  | some text =>
    match parseSorting text with
    | .error e => .error e
    | .ok criteria => .ok (some criteria)

/-- The page. -/
def readPagination (params : Params) : Except RequestError (Option Pagination) :=
  match parseCount "offset" params.offset with
  | .error e => .error e
  | .ok offset =>
    match parseCount "limit" params.limit with
    | .error e => .error e
    | .ok limit =>
      if offset.isNone && limit.isNone then .ok none
      else .ok (some ⟨offset.getD 0, limit.getD 0⟩)

/-- The selection. -/
def readSelection (params : Params) : Except RequestError (Option FieldSelection) :=
  match present? params.fields, present? params.excludeFields with
  | some _, some _ => .error .selectedAndExcluded
  | some fields, none => (parseSelection false fields).map some
  | none, some fields => (parseSelection true fields).map some
  | none, none => .ok none

/-- The request that the parameters say. -/
def request (params : Params) : Request :=
  ⟨params.readFilter, params.readSorting, params.readPagination, params.readSelection⟩

/-! ### Parameters as JSON text -/

/-- The parameters that have been read; a parameter that was `null` has been read. -/
structure Draft where
  filter : Option (Option String)
  orderBy : Option (Option String)
  fields : Option (Option String)
  excludeFields : Option (Option String)
  offset : Option (Option String)
  limit : Option (Option String)

/-- How the parameters are read. -/
def draftFields : List (Json.Reader.Field Draft) :=
  let param (name : String) (get : Draft → Option (Option String))
      (set : Draft → Option String → Draft) : Json.Reader.Field Draft :=
    Json.Reader.field name get set Json.Reader.optionalText
  [param "filter" (·.filter) fun d v => { d with filter := some v },
    param "order_by" (·.orderBy) fun d v => { d with orderBy := some v },
    param "fields" (·.fields) fun d v => { d with fields := some v },
    param "exclude_fields" (·.excludeFields) fun d v => { d with excludeFields := some v },
    param "offset" (·.offset) fun d v => { d with offset := some v },
    param "limit" (·.limit) fun d v => { d with limit := some v }]

/-- The parameters that a draft is; what is left out is absent. -/
def Draft.finish (d : Draft) : Except String Params :=
  .ok ⟨d.filter.join, d.orderBy.join, d.fields.join, d.excludeFields.join, d.offset.join,
    d.limit.join⟩

/-- Reads parameters. -/
def reader : Json.Reader Params :=
  Json.Reader.record "QueryParams" draftFields ⟨none, none, none, none, none, none⟩ Draft.finish

end Params

end RequestSql
