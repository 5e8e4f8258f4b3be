import Registrar.Logging.Settings
import Registrar.Workspace

/-!
# Log sinks

Where the lines of a log go. A log file is made before the first line, in a directory that is made
with it, and lines are added to the end of what it has.
-/

namespace Registrar

/-- Where the log goes. -/
inductive LogSink
  | standardOutput
  | standardError
  | file (location : Location)
  deriving DecidableEq, Repr

/-- Why a log cannot be begun. -/
inductive LogProblem
  | directoryNotMade
  | fileNotOpened
  deriving DecidableEq, Repr

namespace Workspace

/-- The workspace in which a path leads to a file, and the location of that file. A file that is
missing is made without anything in it. -/
def openFile (workspace : Workspace) (path : FilePath) : Except FileError (Workspace × Location) :=
  match workspace.locate path true with
  | .ok location =>
    match workspace.tree.entry? location with
    | some (.file _) => .ok (workspace, location)
    | _ => .error .isADirectory
  | .error .notFound =>
    (workspace.placeOf path).map fun location =>
      ({ workspace with tree := workspace.tree.put location (.file ByteArray.empty) }, location)
  | .error cause => .error cause

/-- The workspace in which a text is added to the end of the file at a location. -/
def appendText (workspace : Workspace) (location : Location) (text : String) : Workspace :=
  match workspace.tree.entry? location with
  | some (.file content) =>
    { workspace with tree := workspace.tree.put location (.file (content ++ text.toUTF8)) }
  | _ => workspace

end Workspace

namespace LogSettings

/-- The workspace in which a log is begun, and where its lines go. -/
def begin (settings : LogSettings) (workspace : Workspace) :
    Except LogProblem (Workspace × LogSink) :=
  match settings.output with
  | .standardOutput => .ok (workspace, .standardOutput)
  | .standardError => .ok (workspace, .standardError)
  | .file =>
    match workspace.makeDirectories settings.directory with
    | .error _ => .error .directoryNotMade
    | .ok (tree, _) =>
      match Workspace.openFile { workspace with tree }
        (settings.directory.join ⟨settings.fileName⟩) with
      | .error _ => .error .fileNotOpened
      | .ok (workspace, location) => .ok (workspace, .file location)

end LogSettings

end Registrar
