import Sqlwright.Adapter.Call
import Sqlwright.Proofs.Dialect.Independence
import Sqlwright.Proofs.Query.Embedding
import Sqlwright.Proofs.Query.Meaning
import Sqlwright.Proofs.Query.Placeholders
import Sqlwright.Proofs.Schema.Index
import Sqlwright.Proofs.Adapter.Journal
import Sqlwright.Proofs.Schema.Arguments
import Sqlwright.Proofs.Dialect.Modes
import Sqlwright.Proofs.Identifier.Kept
import Sqlwright.Proofs.Schema.ObjectName
import Sqlwright.Proofs.Dialect.Fresh
import Sqlwright.Proofs.Adapter.Mirror
import Sqlwright.Proofs.Identifier.Names
import Sqlwright.Proofs.Mutation.Single
import Sqlwright.Proofs.Schema.Alteration
import Sqlwright.Proofs.Adapter.Failure
import Sqlwright.Proofs.Dialect.Return
import Sqlwright.Proofs.Identifier.Closure
import Sqlwright.Proofs.Query.Conjunction
import Sqlwright.Proofs.Query.Restriction
import Sqlwright.Proofs.Query.Clause
import Sqlwright.Proofs.Query.Projection
import Sqlwright.Proofs.Adapter.Aggregate
import Sqlwright.Proofs.Mutation.Columns
import Sqlwright.Proofs.Mutation.Assignment
import Sqlwright.Proofs.Mutation.Cells
import Sqlwright.Proofs.Query.Window
import Sqlwright.Proofs.Adapter.Reply
import Sqlwright.Proofs.Error.Wording
import Sqlwright.Proofs.Dialect.Stop
import Sqlwright.Proofs.Dialect.Literal
import Sqlwright.Proofs.Identifier.Alias
import Sqlwright.Proofs.Value.Number
import Sqlwright.Proofs.Adapter.Number
import Sqlwright.Proofs.Calendar.Instant
import Sqlwright.Proofs.Value.Literal
import Sqlwright.Proofs.Dialect.Inline
import Sqlwright.Proofs.Dialect.Timestamp
import Sqlwright.Proofs.Identifier.FirstSpan
