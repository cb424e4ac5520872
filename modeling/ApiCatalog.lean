import ApiCatalog.Loading
import ApiCatalog.Dump
import ApiCatalog.NamesReport
import ApiCatalog.Command
import ApiCatalog.CommandLine
import ApiCatalog.Main
import ApiCatalog.Proofs.Performing
import ApiCatalog.Proofs.Related
import ApiCatalog.Proofs.Linking
import ApiCatalog.Proofs.Discovery
import ApiCatalog.Proofs.Schema.References
import ApiCatalog.Proofs.Schema.Visiting
import ApiCatalog.Proofs.Schema.Graph
import ApiCatalog.Proofs.Schema.Records
import ApiCatalog.Proofs.Schema.Insertions
import ApiCatalog.Proofs.Schema.Following
import ApiCatalog.Proofs.Schema.Requests
import ApiCatalog.Proofs.Schema.Paths
import ApiCatalog.Proofs.Schema.Revisions
import ApiCatalog.Proofs.Schema.Patching
import ApiCatalog.Proofs.Schema.Reordering
import ApiCatalog.Proofs.Naming.Scope
import ApiCatalog.Proofs.Naming.Types
import ApiCatalog.Proofs.Naming.Documents
import ApiCatalog.Proofs.Loading.Success
import ApiCatalog.Proofs.Loading.Requests
import ApiCatalog.Proofs.Loading.Reordering
import ApiCatalog.Proofs.Loading.Schemas
import ApiCatalog.Proofs.Loading.Completeness
import ApiCatalog.Proofs.Loading.Marks
import ApiCatalog.Proofs.Naming.Given
import ApiCatalog.Proofs.Loading.Names
import ApiCatalog.Proofs.Loading.DiscoveryOrder
import ApiCatalog.Proofs.Schema.Interruption
import ApiCatalog.Proofs.Schema.Worklist
import ApiCatalog.Proofs.Document.Unlinked
import ApiCatalog.Proofs.Loading.Definitions
import ApiCatalog.Proofs.Json.Numerals
import ApiCatalog.Proofs.Json.Texts
import ApiCatalog.Proofs.Json.Numbers
import ApiCatalog.Proofs.Json.Spelling
import ApiCatalog.Proofs.Json.Skipping
import ApiCatalog.Proofs.Json.Conforming
import ApiCatalog.Proofs.Json.Reading
import ApiCatalog.Proofs.Json.Printing
import ApiCatalog.Proofs.Document.RoundTrip
import ApiCatalog.Proofs.Schema.RoundTrip
import ApiCatalog.Proofs.Schema.Tours
import ApiCatalog.Proofs.Schema.Termination
import ApiCatalog.Proofs.Schema.Effects
import ApiCatalog.Proofs.Schema.Positions
import ApiCatalog.Proofs.Schema.Corrections
import ApiCatalog.Proofs.Schema.Interference
import ApiCatalog.Proofs.Document.Placeholders
import ApiCatalog.Proofs.Naming.Stability
import ApiCatalog.Proofs.Loading.Relinking
import ApiCatalog.Proofs.Schema.Ignoring
import ApiCatalog.Proofs.Naming.Words
import ApiCatalog.Proofs.Naming.Initials
import ApiCatalog.Proofs.Schema.Sorting
import ApiCatalog.Proofs.Naming.Claiming
import ApiCatalog.Proofs.Loading.Report
import ApiCatalog.Proofs.Commands
import ApiCatalog.Proofs.Text.Quoting
import ApiCatalog.Proofs.Decimal.Doubles
import ApiCatalog.Proofs.Dump.Rows
import ApiCatalog.Proofs.Dump.Schemas
