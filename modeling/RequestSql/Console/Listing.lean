import RequestSql.Query.Piece
import RequestSql.Request.Params
import RequestSql.Text.Quoted

/-!
# Listings

How the console shows the values of a statement and the parameters of a request: by the
names of their types and fields, texts quoted, absent ones as `None`.

Key definitions: `Value.listing`, `Params.listing`.
-/

namespace RequestSql

/-- The value with its type. -/
def Value.listing : Value → String
  | text content => "String(Some(" ++ Text.quoted content ++ "))"
  | number value => "Double(Some(" ++ NumberLayout.listing.write value ++ "))"
  | count n => "BigUnsigned(Some(" ++ toString n.toNat ++ "))"

namespace Params

/-- The lines for a parameter. -/
def paramLines (name : String) : Option String → List String
  | none => ["    " ++ name ++ ": None,"]
  | some text => ["    " ++ name ++ ": Some(", "        " ++ Text.quoted text ++ ",", "    ),"]

/-- The lines for all parameters, the first one to go on with a line. -/
def listing (params : Params) : List String :=
  "QueryParams \x7b" ::
    paramLines "filter" params.filter ++ paramLines "order_by" params.orderBy ++
      paramLines "fields" params.fields ++ paramLines "exclude_fields" params.excludeFields ++
      paramLines "offset" params.offset ++ paramLines "limit" params.limit ++ ["\x7d"]

end Params

end RequestSql
