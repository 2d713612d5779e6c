import RequestSql.Text.Blank
import RequestSql.Text.Quoted
import RequestSql.Number.Layout
import RequestSql.Filter.Path
import RequestSql.Filter.Lexer
import RequestSql.Filter.Parser
import RequestSql.Json.Reader
import RequestSql.Json.Writer
import RequestSql.Filter.Wire
import RequestSql.Names.Set
import RequestSql.Names.Map
import RequestSql.Schema.Wire
import RequestSql.Plan.Condition
import RequestSql.Request.Params
import RequestSql.Query.Fragments
import RequestSql.Query.Select
import RequestSql.Query.Step
import RequestSql.Main
import RequestSql.Proofs.Filter.Reading
import RequestSql.Proofs.Filter.Grammar
import RequestSql.Proofs.Plan.PredicateText
import RequestSql.Proofs.Schema.Names
import RequestSql.Proofs.Sql.Condition
import RequestSql.Proofs.Sql.Symbols
import RequestSql.Proofs.Plan.Meaning
import RequestSql.Proofs.Plan.Marks
import RequestSql.Proofs.Query.Splicing
import RequestSql.Proofs.Query.Additions
import RequestSql.Proofs.Query.Placeholders
import RequestSql.Proofs.Query.Numbering
import RequestSql.Proofs.Plan.Masking
import RequestSql.Proofs.Query.Masking
import RequestSql.Proofs.Names.Bytes
import RequestSql.Proofs.Schema.Reach
import RequestSql.Proofs.Plan.References
import RequestSql.Proofs.Plan.Joined
import RequestSql.Proofs.Plan.Ambiguity
import RequestSql.Proofs.Sql.Atom
import RequestSql.Proofs.Query.Statement
import RequestSql.Proofs.Query.Vocabulary
import RequestSql.Proofs.Query.Folding
import RequestSql.Proofs.Filter.Lexeme
import RequestSql.Proofs.Text.Bytes
import RequestSql.Proofs.Filter.Spans
import RequestSql.Proofs.Filter.Failure
import RequestSql.Proofs.Number.ReadBack
import RequestSql.Proofs.Filter.Printing
import RequestSql.Proofs.Query.Wording
import RequestSql.Proofs.Query.Entries
import RequestSql.Proofs.Query.InStep
import RequestSql.Proofs.Plan.Refusals
import RequestSql.Proofs.Plan.Precedence
import RequestSql.Proofs.Filter.Encoding
import RequestSql.Proofs.Plan.Growth
import RequestSql.Proofs.Plan.Leaves
import RequestSql.Proofs.Plan.Height
import RequestSql.Proofs.Filter.Transport
import RequestSql.Proofs.Json.ReadBack
import RequestSql.Proofs.Schema.Configuration
import RequestSql.Proofs.Plan.Preloads
import RequestSql.Proofs.Plan.Routes
import RequestSql.Proofs.Query.KeyPairs
import RequestSql.Proofs.Schema.Checks
import RequestSql.Proofs.Plan.Orders
import RequestSql.Proofs.Filter.Adjacent
import RequestSql.Proofs.Filter.Displaced
import RequestSql.Proofs.Text.Blank
import RequestSql.Proofs.Request.Trimming
import RequestSql.Proofs.Request.Sorting
import RequestSql.Proofs.Request.Presence
import RequestSql.Proofs.Request.Selecting
import RequestSql.Proofs.Request.Paging
import RequestSql.Proofs.Names.History
import RequestSql.Proofs.Console.Lines
import RequestSql.Proofs.Console.Log
import RequestSql.Proofs.Filter.Path
import RequestSql.Proofs.Plan.Dotted
