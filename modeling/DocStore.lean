import DocStore.Engine.Script
import DocStore.Engine.Transport
import DocStore.Proofs.Command.Clear
import DocStore.Proofs.Command.Condition
import DocStore.Proofs.Query.Tree
import DocStore.Proofs.Row.RoundTrip
import DocStore.Row.Geometry
import DocStore.Schema.Builtin
import DocStore.Store.Classes
import DocStore.Proofs.Engine.Record
import DocStore.Proofs.Engine.Discipline
import DocStore.Proofs.Store.Course
import DocStore.Proofs.Store.Operations
import DocStore.Proofs.Sql.Predicates
import DocStore.Proofs.Query.Predicates
import DocStore.Proofs.Query.Membership
import DocStore.Proofs.Json.Members
import DocStore.Proofs.Sql.Terms
import DocStore.Proofs.Sql.Values
import DocStore.Proofs.Update.Steps
import DocStore.Proofs.Update.Nested
import DocStore.Proofs.Update.Assignments
import DocStore.Proofs.Update.Members
import DocStore.Proofs.Row.Refusals
import DocStore.Proofs.Store.Exchanges
import DocStore.Proofs.Store.Upsert
import DocStore.Proofs.Command.Tokens
import DocStore.Proofs.Store.Effects
import DocStore.Proofs.Catalog.Deeds
import DocStore.Proofs.Catalog.Fields
import DocStore.Proofs.Catalog.Additions
import DocStore.Proofs.Catalog.Conflicts
import DocStore.Proofs.Command.Clauses
import DocStore.Proofs.Store.Rereads
import DocStore.Proofs.Update.Contributions
import DocStore.Proofs.Update.Slots
import DocStore.Proofs.Command.Names
import DocStore.Proofs.Row.Plain
import DocStore.Proofs.Store.Assigning
import DocStore.Proofs.Update.Plain
import DocStore.Proofs.Command.Writes
import DocStore.Proofs.Query.Stored
import DocStore.Proofs.Store.Checks
import DocStore.Proofs.Schema.Views
import DocStore.Proofs.Store.Creation
import DocStore.Proofs.Store.Removal
import DocStore.Proofs.Sql.Numbering
import DocStore.Proofs.Query.Writing
import DocStore.Proofs.Update.Writing
import DocStore.Proofs.Store.Placeholders
import DocStore.Proofs.Command.Items
import DocStore.Proofs.Command.Definitions
import DocStore.Proofs.Catalog.Evolution
import DocStore.Proofs.Command.Indexes
import DocStore.Proofs.Catalog.Indexes
import DocStore.Proofs.Document.Distinct
import DocStore.Proofs.Row.Cells
import DocStore.Proofs.Command.Insertions
import DocStore.Proofs.Update.Distinct
import DocStore.Proofs.Update.Names
import DocStore.Proofs.Command.Assignments
import DocStore.Proofs.Update.Relations
import DocStore.Proofs.Update.Providers
import DocStore.Proofs.Query.Places
import DocStore.Proofs.Query.Polygons
import DocStore.Proofs.Command.Drops
import DocStore.Proofs.Store.FieldRemoval
import DocStore.Proofs.Command.Batches
import DocStore.Proofs.Pattern.Extended
import DocStore.Proofs.Document.Expansion
import DocStore.Proofs.Document.Folding
import DocStore.Proofs.Calendar.Readings
import DocStore.Proofs.Schema.Joins
import DocStore.Proofs.Row.Points
import DocStore.Proofs.Sql.Scanning
import DocStore.Proofs.Update.Parents
import DocStore.Proofs.Update.Places
import DocStore.Proofs.Command.Paths
