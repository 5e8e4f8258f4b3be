import Registrar.Aggregation
import Registrar.Discovery
import Registrar.Header
import Registrar.ModulePath

/-!
# Examination of source files

A file that was found is examined by itself: it is read if it has a module, and scanned unless it
says that it is generated.
-/

namespace Registrar

/-- What source files are examined by. -/
structure Scope where
  markers : MarkerNames
  contract : ContractNames
  sourceRoot : FilePath
  cratePrefix : String
  deriving DecidableEq, Repr

namespace Scope

/-- Examines a text as a source file of a module. -/
def examineText (scope : Scope) (module : String) (text : String) : Examination :=
  if Header.isGenerated text.toList then .priorOutput
  else
    match MarkedDeclaration.scan? scope.markers text.toList with
    | some declarations => .scanned (Findings.ofDeclarations scope.contract module declarations)
    | none => .notApplicable .notSource

/-- What comes of a file. -/
def examine (scope : Scope) (workspace : Workspace) (file : FoundFile) : Examination :=
  match ModulePath.ofFile? scope.sourceRoot file.path scope.cratePrefix with
  | none => .notApplicable .noModulePath
  | some module =>
    match workspace.readText file.path with
    | .error cause => .failed cause.message
    | .ok text => scope.examineText module text

/-- The files with what comes of them. -/
def examineAll (scope : Scope) (workspace : Workspace) (files : List FoundFile) :
    List ExaminedFile :=
  files.map fun file => ⟨file.relative, scope.examine workspace file⟩

/-- The findings of files, taken together. -/
def aggregate (scope : Scope) (workspace : Workspace) (files : List FoundFile) : Aggregation :=
  Aggregation.ofFiles (scope.examineAll workspace files)

end Scope

end Registrar
