import RequestSql.Filter.Parser

/-!
# Why a request is refused

Reading an operator of a request can fail, and so can compiling what was read against a
schema. Both are kept as causes; their wording is in one place.

Key definitions: `RequestError`, `CompileError`.
-/

namespace RequestSql

/-- Why an operator of a request cannot be read. -/
inductive RequestError where
  | filter (cause : ParseError)
  /-- A piece of the sort parameter is no criterion. -/
  | sorting (piece : String)
  /-- The parameter `name` is no count. -/
  | pagination (name value : String)
  /-- Fields are both selected and excluded. -/
  | selectedAndExcluded
  /-- A piece of a field list is no field path. -/
  | notFieldPath (piece : String)
deriving DecidableEq, Repr

/-- The text of the error. -/
def RequestError.message : RequestError → String
  | filter cause => "invalid filter: " ++ cause.message
  | sorting piece => "invalid sort criterion `" ++ piece ++ "`"
  | pagination name value =>
    "invalid " ++ name ++ " `" ++ value ++ "`: expected a non-negative integer"
  | selectedAndExcluded =>
    "invalid field selection: `fields` and `exclude_fields` are mutually exclusive"
  | notFieldPath piece => "invalid field selection: `" ++ piece ++ "` is not a field path"

/-- Why a request cannot be compiled. -/
inductive CompileError where
  | unknownEntity (name : String)
  | unknownField (entity field : String)
  /-- The path crosses more than one association. -/
  | unsupportedPath (path : String)
  | unknownAssociation (entity association : String)
  /-- The filter has a node of an unknown kind. -/
  | unsupportedNode
  /-- An operator of the request cannot be read. -/
  | request (cause : RequestError)
deriving DecidableEq, Repr

/-- The text of the error. -/
def CompileError.message : CompileError → String
  | unknownEntity name => "unknown entity `" ++ name ++ "`"
  | unknownField entity field => "unknown field `" ++ field ++ "` on entity `" ++ entity ++ "`"
  | unsupportedPath path =>
    "field path `" ++ path ++
      "` crosses more than one association, only single-hop paths are supported"
  | unknownAssociation entity association =>
    "association `" ++ association ++ "` is not defined on entity `" ++ entity ++ "`"
  | unsupportedNode => "filter node `unrecognized node kind` is not supported"
  | request cause => "request extraction failed: " ++ cause.message

end RequestSql
