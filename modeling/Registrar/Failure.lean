import Registrar.FileError
import Registrar.FilePath
import Registrar.Glob.Pattern
import Registrar.Text.Quoted

/-!
# Failures of a run

What ends a run. A problem of one source file or one declaration does not.
-/

namespace Registrar

/-- Why a path may not receive the artifact. -/
inductive OutputPathProblem
  | leavesDirectory
  | isDirectory
  deriving DecidableEq, Repr

/-- The problem in words. -/
def OutputPathProblem.message : OutputPathProblem → String
  | leavesDirectory => "must not contain `..`"
  | isDirectory => "is a directory"

/-- What ends a run. -/
inductive Failure
  | outputPath (path : FilePath) (problem : OutputPathProblem)
  | pattern (text : String) (problem : Glob.Problem)
  | walk (root : FilePath) (cause : FileError)
  | renderedInvalid
  | emptyRegistry
  | write (path : FilePath) (cause : FileError)
  | read (path : FilePath) (cause : FileError)
  deriving DecidableEq, Repr

/-- The kinds of failures. -/
inductive FailureCategory
  | config | discovery | render | io
  deriving DecidableEq, Repr

/-- How a kind of failures is called in events. -/
def FailureCategory.label : FailureCategory → String
  | config => "config_error"
  | discovery => "discovery_error"
  | render => "render_error"
  | io => "io_error"

/-- What went wrong at a path, in the words of a walk. -/
def FileError.messageAt (cause : FileError) (path : FilePath) : String :=
  "IO error for operation on " ++ path.text ++ ": " ++ cause.message

namespace Failure

/-- The kind of a failure. -/
def category : Failure → FailureCategory
  | outputPath _ _ => .config
  | pattern _ _ => .config
  | walk _ _ => .discovery
  | renderedInvalid => .render
  | emptyRegistry => .render
  | write _ _ => .io
  | read _ _ => .io

/-- The failure in words, without what caused it in the file system. -/
def headline : Failure → String
  | outputPath path problem =>
    "invalid configuration: output path " ++ Text.quotedPath path.text ++ " " ++ problem.message
  | pattern text problem =>
    "invalid glob pattern " ++ Text.quoted text ++ ": error parsing glob '" ++ text ++ "': " ++
      problem.message
  | walk root _ => "failed to walk source tree at " ++ Text.quotedPath root.text
  | renderedInvalid => "rendered artifact does not parse as Rust"
  | emptyRegistry => "refusing to render an empty registry"
  | write path _ => "failed to write artifact " ++ Text.quotedPath path.text
  | read path _ => "failed to read " ++ Text.quotedPath path.text

/-- The failure in words. -/
def message : Failure → String
  | walk root cause => headline (walk root cause) ++ ": " ++ cause.messageAt root
  | write path cause => headline (write path cause) ++ ": " ++ cause.message
  | read path cause => headline (read path cause) ++ ": " ++ cause.message
  | other => headline other

end Failure

end Registrar
