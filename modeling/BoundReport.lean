import BoundReport.Template.Construct
import BoundReport.Definition.DataSet
import BoundReport.Definition.DataSource
import BoundReport.Declarations
import BoundReport.Resolution
import BoundReport.Fixture
import BoundReport.Page
import BoundReport.OutputName
import BoundReport.Settings
import BoundReport.Command.Run
import BoundReport.Main
import BoundReport.Proofs.Lexing
import BoundReport.Proofs.Spaces
import BoundReport.Proofs.Tags
import BoundReport.Proofs.Occurrences
import BoundReport.Proofs.RoundTrip
import BoundReport.Proofs.Blocks
import BoundReport.Proofs.Calls
import BoundReport.Proofs.RowData
import BoundReport.Proofs.Acceptance
import BoundReport.Proofs.Partition
import BoundReport.Proofs.Faults
import BoundReport.Proofs.Uses
import BoundReport.Proofs.Composition
import BoundReport.Proofs.Rearrangement
import BoundReport.Proofs.Envelope
import BoundReport.Proofs.AttributeLists
import BoundReport.Proofs.Congruence
import BoundReport.Proofs.Redaction
import BoundReport.Proofs.Passwords
import BoundReport.Proofs.Concatenation
import BoundReport.Proofs.Gaps
import BoundReport.Proofs.InertLines
import BoundReport.Proofs.Looking
import BoundReport.Proofs.Agreement
import BoundReport.Proofs.Listing
import BoundReport.Proofs.Paths
import BoundReport.Proofs.Places
import BoundReport.Proofs.Invocations
import BoundReport.Proofs.Effects
import BoundReport.Proofs.LoopTurns
import BoundReport.Proofs.TagTurns
import BoundReport.Proofs.Statements
import BoundReport.Proofs.ItemLists
import BoundReport.Proofs.Mandatory
import BoundReport.Proofs.FixtureValues
import BoundReport.Proofs.SingleRows
import BoundReport.Proofs.Extracted
import BoundReport.Proofs.LineEnds
import BoundReport.Proofs.AttributeOrder
import BoundReport.Proofs.ParameterLists
import BoundReport.Proofs.ParameterFields
import BoundReport.Proofs.Registrations
import BoundReport.Proofs.Prologue
import BoundReport.Proofs.Insertion
import BoundReport.Proofs.Timestamps
import BoundReport.Proofs.Spans
