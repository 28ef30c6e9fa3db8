import ExprSql.Compile
import ExprSql.Compile.Handlers
import ExprSql.Expr.Builder
import ExprSql.Expr.Equality
import ExprSql.Fragment.Render
import ExprSql.Options.Reader
import ExprSql.Record
import ExprSql.Proofs.ByOwner
import ExprSql.Proofs.Compile.Chain
import ExprSql.Proofs.Compile.Meaning
import ExprSql.Proofs.Compile.Standard
import ExprSql.Proofs.Compile.WellSorted
import ExprSql.Proofs.Evaluate.Failures
import ExprSql.Proofs.Evaluate.Yields
import ExprSql.Proofs.Expr.Built
import ExprSql.Proofs.Fragment.Fences
import ExprSql.Proofs.Fragment.Layout
import ExprSql.Proofs.Fragment.Placeholders
import ExprSql.Proofs.Fragment.Reading
import ExprSql.Proofs.Fragment.Scalars
import ExprSql.Proofs.Fragment.Tree
import ExprSql.Proofs.Numeric.Sized
import ExprSql.Proofs.Query.Lexing
import ExprSql.Proofs.Query.Parser
import ExprSql.Proofs.Query.Parsing
import ExprSql.Proofs.Query.Token
import ExprSql.Proofs.Query.Tree
import ExprSql.Proofs.Query.Unambiguous
import ExprSql.Proofs.Run
import ExprSql.Proofs.Text.Marks
import ExprSql.Proofs.Value.Plain
import ExprSql.Proofs.Value.Cast
import ExprSql.Proofs.Expr.Sites
import ExprSql.Proofs.Run.Calls
import ExprSql.Proofs.Value.Saturation
import ExprSql.Proofs.Evaluate.Calls
import ExprSql.Proofs.Compile.Calls
import ExprSql.Proofs.Fragment.Columns
import ExprSql.Proofs.Compile.Columns
import ExprSql.Proofs.Numeric.Exact
import ExprSql.Proofs.Value.Whole
import ExprSql.Proofs.Value.Comparison
import ExprSql.Proofs.Numeric.Binary
import ExprSql.Proofs.Value.Range
import ExprSql.Proofs.Numeric.Interchange
import ExprSql.Proofs.Value.Truncation
import ExprSql.Proofs.Numeric.Shift
import ExprSql.Proofs.Value.Shift
import ExprSql.Proofs.Value.Instance
import ExprSql.Proofs.Value.StaticType
import ExprSql.Proofs.Value.Recast
import ExprSql.Proofs.Value.Target
import ExprSql.Proofs.Run.Asking
import ExprSql.Proofs.Evaluate.Operands
import ExprSql.Proofs.Compile.Questions
import ExprSql.Proofs.Compile.Depth
import ExprSql.Proofs.Compile.StrictNull
import ExprSql.Proofs.Run.InOrder
import ExprSql.Proofs.Compile.Flattening
import ExprSql.Proofs.Value.Enumerated
import ExprSql.Proofs.Value.UnaryType
import ExprSql.Proofs.Compile.Concatenation
import ExprSql.Proofs.Compile.Membership
import ExprSql.Proofs.Text.Pattern
import ExprSql.Proofs.Compile.Matching
import ExprSql.Proofs.Query.Phrase
import ExprSql.Proofs.Query.Precedence
import ExprSql.Proofs.Query.Reached
import ExprSql.Proofs.Query.Rendered
import ExprSql.Proofs.Query.Postgres
import ExprSql.Proofs.Compile.Registration
import ExprSql.Proofs.Compile.Ladder
import ExprSql.Proofs.Expr.Path
import ExprSql.Proofs.Value.Kind
import ExprSql.Proofs.Value.Definedness
import ExprSql.Proofs.Fragment.Minus
import ExprSql.Proofs.Text.Enclosed
import ExprSql.Proofs.Query.Comments
