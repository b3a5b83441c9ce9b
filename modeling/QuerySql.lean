import QuerySql.Word64
import QuerySql.Text.Ranges
import QuerySql.Text.Blank
import QuerySql.Text.WordChar
import QuerySql.Text.Unprintable
import QuerySql.Text.GraphemeExtend
import QuerySql.Text.Uppercase
import QuerySql.Text.Search
import QuerySql.Text.Escape
import QuerySql.Binary64.Shortest
import QuerySql.Json.Printer
import QuerySql.Json.Parser
import QuerySql.Vocabulary
import QuerySql.Query.Basic
import QuerySql.Query.DecodeError
import QuerySql.Query.Document
import QuerySql.Sql.Fragment
import QuerySql.Sql.Spacing
import QuerySql.Sql.Denylist
import QuerySql.Compile.Statement
import QuerySql.Validation
import QuerySql.Options.Reader
import QuerySql.Options.Config
import QuerySql.Embedding
import QuerySql.Main
import QuerySql.Proofs.Segments
import QuerySql.Proofs.Respacing
import QuerySql.Proofs.Spacing
import QuerySql.Proofs.Characters
import QuerySql.Proofs.Compilation
import QuerySql.Proofs.Leaves
import QuerySql.Proofs.Literals
import QuerySql.Proofs.Operands
import QuerySql.Proofs.Delimited
import QuerySql.Proofs.Alike
import QuerySql.Proofs.Parameterization
import QuerySql.Proofs.Statements
import QuerySql.Proofs.Agreement
import QuerySql.Proofs.Denylist
import QuerySql.Proofs.Guard
import QuerySql.Proofs.Rounding
import QuerySql.Proofs.Readings
import QuerySql.Proofs.ReservedStrings
import QuerySql.Proofs.Spellings
import QuerySql.Proofs.StrictValidation
import QuerySql.Proofs.Inlining
import QuerySql.Proofs.StaticFlags
import QuerySql.Proofs.Splices
import QuerySql.Proofs.Subqueries
import QuerySql.Proofs.Binding
import QuerySql.Proofs.Depth
import QuerySql.Proofs.Assembly
import QuerySql.Proofs.Recursion
import QuerySql.Proofs.Unions
import QuerySql.Proofs.Layouts
import QuerySql.Proofs.QuotedLiterals
import QuerySql.Proofs.KeptLiterals
import QuerySql.Proofs.Confinement
import QuerySql.Proofs.RoundTrips
import QuerySql.Proofs.InertValues
import QuerySql.Proofs.Grouping
import QuerySql.Proofs.Records
import QuerySql.Proofs.Reordering
import QuerySql.Proofs.MemberOrder
import QuerySql.Proofs.Unquoting
import QuerySql.Proofs.Notes
import QuerySql.Proofs.Deliveries
import QuerySql.Proofs.IncompleteComparisons
import QuerySql.Proofs.NumberTexts
import QuerySql.Proofs.JsonTexts
import QuerySql.Proofs.DeliveredValues
import QuerySql.Proofs.OutputLines
import QuerySql.Proofs.LeadingOperands
