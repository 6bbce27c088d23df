import SqlTemplate.Expansion.Command
import SqlTemplate.Expander
import SqlTemplate.Proofs.Expansion.Steps
import SqlTemplate.Proofs.Expansion.Depth
import SqlTemplate.Proofs.Expansion.Prefix
import SqlTemplate.Proofs.Expansion.AllSkipped
import SqlTemplate.Proofs.Expansion.Ledger
import SqlTemplate.Proofs.Expansion.Reference
import SqlTemplate.Proofs.Expansion.Layout
import SqlTemplate.Proofs.Expansion.Skip
import SqlTemplate.Proofs.Template.Slice
import SqlTemplate.Proofs.Template.Balance
import SqlTemplate.Proofs.Template.Reading
import SqlTemplate.Proofs.Template.Pass
import SqlTemplate.Proofs.Template.FaultFree
import SqlTemplate.Proofs.Template.OnePass
import SqlTemplate.Proofs.Template.Slots
import SqlTemplate.Profile.Fields
import SqlTemplate.Quoter.Standard
import SqlTemplate.Registry
import SqlTemplate.Report
import SqlTemplate.Session.Step
import SqlTemplate.Proofs.Expansion.Consumption
import SqlTemplate.Proofs.Expansion.Malformed
import SqlTemplate.Proofs.Literal.Tame
import SqlTemplate.Proofs.Literal.Quoting
import SqlTemplate.Proofs.Literal.Rendered
import SqlTemplate.Proofs.Expansion.Inert
import SqlTemplate.Proofs.Template.Comments
import SqlTemplate.Proofs.Expansion.Comments
import SqlTemplate.Proofs.Expansion.Hidden
import SqlTemplate.Proofs.Expansion.Discipline
import SqlTemplate.Proofs.Expansion.Recursion
import SqlTemplate.Proofs.Template.Turns
import SqlTemplate.Proofs.Expansion.Termination
import SqlTemplate.Proofs.Template.Lines
import SqlTemplate.Proofs.Template.Insertion
import SqlTemplate.Proofs.Expansion.Spared
import SqlTemplate.Proofs.Expansion.Inlining
import SqlTemplate.Proofs.Number.Range
import SqlTemplate.Proofs.Literal.Oversized
import SqlTemplate.Proofs.Expansion.Blame
import SqlTemplate.Proofs.Session.Steps
import SqlTemplate.Proofs.Session.Cursors
import SqlTemplate.Proofs.Session.Records
import SqlTemplate.Proofs.Session.Transactions
import SqlTemplate.Proofs.Session.Statements
import SqlTemplate.Proofs.Session.Logging
import SqlTemplate.Proofs.Template.Blocks
import SqlTemplate.Proofs.Template.Places
import SqlTemplate.Proofs.Template.Cuts
import SqlTemplate.Proofs.Expansion.Reach
import SqlTemplate.Proofs.Expansion.Braces
import SqlTemplate.Proofs.Expansion.Emission
import SqlTemplate.Proofs.Template.Joining
import SqlTemplate.Proofs.Expansion.Lines
import SqlTemplate.Proofs.Literal.ReadBack
import SqlTemplate.Proofs.Template.Alternatives
import SqlTemplate.Proofs.Literal.Fields
import SqlTemplate.Proofs.Number.Integer
import SqlTemplate.Proofs.Number.Truncation
import SqlTemplate.Proofs.Literal.NumericSlots
import SqlTemplate.Proofs.Literal.Identifiers
import SqlTemplate.Proofs.Template.Pieces
import SqlTemplate.Proofs.Expansion.Flattening
import SqlTemplate.Proofs.Literal.EmptyValues
import SqlTemplate.Proofs.Rows.Paths
import SqlTemplate.Proofs.Rows.Agreement
import SqlTemplate.Proofs.Rows.BadKeys
import SqlTemplate.Proofs.Number.Exact
import SqlTemplate.Proofs.Rows.SameKey
import SqlTemplate.Proofs.Rows.Bins
import SqlTemplate.Proofs.Rows.Sieve
import SqlTemplate.Proofs.Rows.Partition
import SqlTemplate.Proofs.Session.Cells
import SqlTemplate.Proofs.Session.Fetching
