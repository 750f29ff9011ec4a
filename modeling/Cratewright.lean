import Cratewright.Configuration.Report
import Cratewright.Inspect
import Cratewright.Proofs.CrateGeneration
import Cratewright.Proofs.Materialize.Cycle
import Cratewright.Proofs.Program.Flat
import Cratewright.Proofs.Flattening
import Cratewright.Proofs.Manifest.History
import Cratewright.Proofs.Text.Lines
import Cratewright.Proofs.Writer.Layout
import Cratewright.Proofs.Program.Shift
import Cratewright.Proofs.Program.Insertion
import Cratewright.Proofs.Manifest.Confinement
import Cratewright.Proofs.Template.Named
import Cratewright.Proofs.Writer.Splicing
import Cratewright.Proofs.Program.Contributions
import Cratewright.Proofs.Frame
import Cratewright.Proofs.GeneratedCode
import Cratewright.Proofs.Text.Bytes
import Cratewright.Proofs.Manifest.Reached
import Cratewright.Proofs.Manifest.Merging
import Cratewright.Proofs.Rivals
import Cratewright.Proofs.Materialize.Closure
import Cratewright.Proofs.Materialize.Progress
import Cratewright.Proofs.Writer.Contents
import Cratewright.Proofs.Program.Success
import Cratewright.Proofs.LibraryUnits
import Cratewright.Proofs.Manifest.Repetition
import Cratewright.Proofs.Template.Scanning
import Cratewright.Proofs.Program.Escaping
import Cratewright.Proofs.Writer.Withholding
import Cratewright.Proofs.Template.Dedenting
import Cratewright.Proofs.Program.TextArguments
import Cratewright.Proofs.Program.Blocks
import Cratewright.Proofs.References
import Cratewright.Proofs.Retargeting
import Cratewright.Proofs.Configuration.Documents
import Cratewright.Proofs.Configuration.Places
import Cratewright.Proofs.Configuration.Offsets
import Cratewright.Proofs.SnakeCase
import Cratewright.Proofs.TokenFields
