import Registrar.Artifact
import Registrar.Config.CommandLine
import Registrar.Config.File
import Registrar.Contract
import Registrar.Logging.Line
import Registrar.Main
import Registrar.Program
import Registrar.Publication
import Registrar.Run
import Registrar.Scope
import Registrar.Proofs.Time.Calendar
import Registrar.Proofs.Time.Stamp
import Registrar.Proofs.Header
import Registrar.Proofs.FilePath.Components
import Registrar.Proofs.FileTree.Entries
import Registrar.Proofs.Workspace.Resolution
import Registrar.Proofs.Workspace.Directories
import Registrar.Proofs.Workspace.Publication
import Registrar.Proofs.Artifact.Rendering
import Registrar.Proofs.Artifact.Restamping
import Registrar.Proofs.Run.Delivery
import Registrar.Proofs.Run.Modes
import Registrar.Proofs.Workspace.Below
import Registrar.Proofs.Discovery
import Registrar.Proofs.Config
import Registrar.Proofs.Run.Resurvey
import Registrar.Proofs.Run.Stability
import Registrar.Proofs.Source.Suffix.Reader
import Registrar.Proofs.Source.Suffix.Type
import Registrar.Proofs.Source.Suffix.Expression
import Registrar.Proofs.Source.Suffix.Item
import Registrar.Proofs.Source.Reading
import Registrar.Proofs.Source.Names
import Registrar.Proofs.Source.Items
import Registrar.Proofs.Declaration
import Registrar.Proofs.Contract
import Registrar.Proofs.Aggregation
import Registrar.Proofs.Aggregation.Merge
import Registrar.Proofs.Run.Registration
import Registrar.Proofs.Artifact.Imports
import Registrar.Proofs.Artifact.Names
import Registrar.Proofs.Artifact.Lines
import Registrar.Proofs.Run.Naming
import Registrar.Proofs.Run.Accounting
import Registrar.Proofs.Artifact.ScanOrder
import Registrar.Proofs.Run.Destination
import Registrar.Proofs.Run.Feedback
import Registrar.Proofs.Workspace.Rollback
import Registrar.Proofs.Run.Atomicity
import Registrar.Proofs.Run.Isolation
import Registrar.Proofs.Run.Stamping
import Registrar.Proofs.Text.Quoted
import Registrar.Proofs.Artifact.Takeover
import Registrar.Proofs.Artifact.Registrations
import Registrar.Proofs.Artifact.Keys
import Registrar.Proofs.Artifact.ImportLines
import Registrar.Proofs.Artifact.Converters
import Registrar.Proofs.Text.Bytes
import Registrar.Proofs.Text.Occurrence
import Registrar.Proofs.Discovery.Completeness
import Registrar.Proofs.Config.OutputDirectory
import Registrar.Proofs.Config.CommandLine
import Registrar.Proofs.Config.Layers
import Registrar.Proofs.ModulePath
