import WithClause.Main
import WithClause.Proofs.NamedExpression.Closing
import WithClause.Proofs.Query.Merge
import WithClause.Proofs.Query.NotANumber
import WithClause.Proofs.Query.Payload
import WithClause.Proofs.Query.Statement
import WithClause.Proofs.Query.Table
import WithClause.Proofs.Registry.Conflicts
import WithClause.Proofs.Registry.Extension
import WithClause.Proofs.Registry.Grouping
import WithClause.Proofs.Registry.Reachable
import WithClause.Proofs.Registry.Repetition
import WithClause.Proofs.Registry.Items
import WithClause.Proofs.Registry.Exchange
import WithClause.Proofs.CommandLine.Declarations
import WithClause.Proofs.Registry.Emptiness
import WithClause.Proofs.Query.Steps
import WithClause.Proofs.Registry.Events
import WithClause.Proofs.Json.Compact
import WithClause.Proofs.Query.Json
import WithClause.Proofs.Definition.Frozen
import WithClause.Proofs.Registry.Contested
import WithClause.Proofs.CommandLine.Check
import WithClause.Proofs.Registry.Clashes
import WithClause.Proofs.NamedExpression.Quoted
import WithClause.Proofs.Registry.Routes
import WithClause.Proofs.Registry.Lookup
