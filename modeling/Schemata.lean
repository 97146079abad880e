import Schemata.Compile
import Schemata.Conversion
import Schemata.Document.Diagnostic
import Schemata.Document.Statement
import Schemata.Outline
import Schemata.Proofs.Build.Names
import Schemata.Proofs.Build.Numbering
import Schemata.Proofs.Path.Components
import Schemata.Proofs.Path.Map
import Schemata.Proofs.Path.Store
import Schemata.Proofs.Table.Address
import Schemata.Proofs.Table.Identity
import Schemata.Proofs.Table.Body
import Schemata.Proofs.Table.Binding
import Schemata.Proofs.Table.Lexical
import Schemata.Proofs.Table.Reader
import Schemata.Proofs.Table.Encapsulation
import Schemata.Proofs.Table.Agreement
import Schemata.Proofs.Cycle
import Schemata.Proofs.Walk
import Schemata.Proofs.Table.Fault
import Schemata.Proofs.Discovery
import Schemata.Proofs.Discovery.Waves
import Schemata.Proofs.Discovery.Includes
import Schemata.Proofs.Disk
import Schemata.Proofs.Discovery.Spelling
import Schemata.Proofs.Repeats
import Schemata.Proofs.Build.Places
import Schemata.Proofs.Build.WellFormed
import Schemata.Proofs.Build.Constraints
import Schemata.Proofs.Build.Acceptance
import Schemata.Proofs.Denotation
import Schemata.Proofs.Merge
import Schemata.Proofs.Link.Item
import Schemata.Proofs.Link.Run
import Schemata.Proofs.Link.Meaning
import Schemata.Proofs.Link.Cycles
import Schemata.Proofs.Link.Bases
import Schemata.Proofs.Link.File
import Schemata.Proofs.Link.Agreement
import Schemata.Proofs.Handles
import Schemata.Proofs.Closure
import Schemata.Proofs.Link.Blame
import Schemata.Proofs.Blame
import Schemata.Proofs.Link.Statements
import Schemata.Proofs.Link.Copies
import Schemata.Proofs.Link.Success
import Schemata.Proofs.Link.Shape
import Schemata.Proofs.Order.Arrangement
import Schemata.Proofs.Order.Building
import Schemata.Proofs.Order.Includes
import Schemata.Proofs.Order.Table
import Schemata.Proofs.Order.Linking
import Schemata.Proofs.Order.Sources
import Schemata.Proofs.Walk.Trace
import Schemata.Proofs.Walk.Ownership
import Schemata.Proofs.Walk.Pruning
import Schemata.Proofs.Walk.Nesting
import Schemata.Proofs.Link.Machine
import Schemata.Proofs.Link.Simulation
import Schemata.Proofs.Link.Ending
import Schemata.Proofs.Build.Counter
import Schemata.Proofs.Table.Validation
import Schemata.Proofs.Table.Clash
import Schemata.Proofs.Link.Frame
import Schemata.Proofs.Build.Kept
import Schemata.Proofs.Build.Fidelity
import Schemata.Proofs.Build.Markers
import Schemata.Proofs.Table.Usability
import Schemata.Proofs.Table.Markers
import Schemata.Proofs.Link.Failure
import Schemata.Proofs.Link.Markers
import Schemata.Proofs.Text.Digits
import Schemata.Proofs.Duration.Notation
import Schemata.Proofs.Duration.Arithmetic
import Schemata.Proofs.Duration.RoundTrip
import Schemata.Proofs.Fundamental
import Schemata.Proofs.Guid
import Schemata.Proofs.Calendar
import Schemata.Proofs.Rendering
import Schemata.Proofs.Refusal
import Schemata.Proofs.Fundamental.Meaning
import Schemata.Proofs.Fundamental.Consumption
import Schemata.Proofs.Cardinality.Suffix
import Schemata.Proofs.Cardinality
import Schemata.Proofs.Workspace
import Schemata.Proofs.Text.Lines
import Schemata.Proofs.Outline
import Schemata.Proofs.Identifier
import Schemata.Proofs.Position
import Schemata.Proofs.Expression
import Schemata.Arena
import Schemata.Proofs.Arena.Layout
import Schemata.Proofs.Arena.Numbering
import Schemata.Proofs.Arena.Binding
import Schemata.Proofs.Arena.Resolution
