import FluentSql.Connection.Stored
import FluentSql.Inspect
import FluentSql.Terminal
import FluentSql.Value.Tagged
import FluentSql.Proofs.Ledger
import FluentSql.Proofs.Noninterference
import FluentSql.Proofs.Replay
import FluentSql.Proofs.Literals
import FluentSql.Proofs.DebugView
import FluentSql.Proofs.Gate
import FluentSql.Proofs.Failure
import FluentSql.Proofs.Composition
import FluentSql.Proofs.Headless
import FluentSql.Proofs.Restart
import FluentSql.Proofs.SetOperators
import FluentSql.Proofs.Portability
import FluentSql.Proofs.Extension
import FluentSql.Proofs.Limits
import FluentSql.Proofs.Rendering
import FluentSql.Proofs.Counting
import FluentSql.Proofs.Retry
import FluentSql.Proofs.Identifiers
import FluentSql.Proofs.Chaining
import FluentSql.Proofs.Nesting
import FluentSql.Proofs.Projection
import FluentSql.Proofs.Spelling
import FluentSql.Proofs.Insertion
import FluentSql.Proofs.Grouping
import FluentSql.Proofs.LastSelect
import FluentSql.Proofs.Repetition
import FluentSql.Proofs.Semicolons
import FluentSql.Proofs.SortKeys
import FluentSql.Proofs.Plucking
import FluentSql.Proofs.Operands
import FluentSql.Proofs.Views
import FluentSql.Proofs.Addresses
import FluentSql.Proofs.Delimiting
import FluentSql.Proofs.TableNames
import FluentSql.Proofs.FetchedRows
import FluentSql.Proofs.StoredSettings
import FluentSql.Proofs.Emptiness
import FluentSql.Proofs.AliasForm
