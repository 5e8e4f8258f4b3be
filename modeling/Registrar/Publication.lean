import Registrar.Digest
import Registrar.Failure
import Registrar.Workspace

/-!
# Publication of the artifact

The artifact is written to a temporary file in the directory of its path, which then takes its
place, so that the path leads to the old artifact or to the whole new one. A file whose bytes have
the digest of the new text is left alone. Where a step fails, the temporary file is removed.
-/

namespace Registrar

/-- How the file at the path of the artifact compares with a text. -/
inductive Freshness
  | upToDate | stale | missing
  deriving DecidableEq, Repr

/-- What a publication did that succeeded. -/
inductive Publication
  | written | unchanged
  deriving DecidableEq, Repr

/-- The steps of a publication. Each directory that is missing is a step of its own. -/
inductive PublicationStep
  | readOld
  | makeDirectory (location : Location)
  | createTemporary | writeTemporary | flushTemporary | syncTemporary | rename
  deriving DecidableEq, Repr

/-- Which steps fail for reasons that do not lie in the file tree. -/
structure Faults where
  cause? : PublicationStep → Option FileError

namespace Faults

/-- No step fails by itself. -/
def never : Faults := ⟨fun _ => none⟩

/-- Fails if the step does. -/
def check (faults : Faults) (step : PublicationStep) : Except FileError Unit :=
  match faults.cause? step with
  | some cause => .error cause
  | none => .ok ()

end Faults

namespace Workspace

/-- How the file at a path compares with a text, by their digests. -/
def freshness (workspace : Workspace) (faults : Faults) (path : FilePath) (text : String) :
    Except Failure Freshness :=
  match (do faults.check .readOld; workspace.read path) with
  | .ok content => .ok (if Digest.ofBytes content = Digest.ofText text then .upToDate else .stale)
  | .error .notFound => .ok .missing
  | .error cause => .error (.read path cause)

/-- Why a path may not receive the artifact, if it may not. -/
def outputPathProblem? (workspace : Workspace) (path : FilePath) : Option OutputPathProblem :=
  if path.components.contains .parent then some .leavesDirectory
  else if workspace.isDirectory path then some .isDirectory
  else none

/-- The directory in which a path puts a file. -/
def directoryOf (path : FilePath) : FilePath :=
  match path.parent? with
  | some parent => if parent.text.isEmpty then ⟨"."⟩ else parent
  | none => ⟨"."⟩

/-- Fills a temporary file, which is there, and puts it at a path; removes it if that fails. -/
def fillAndRename (workspace : Workspace) (faults : Faults) (temporary : Location)
    (path : FilePath) (text : String) : Workspace × Except FileError Unit :=
  let place : Except FileError Location := do
    faults.check .writeTemporary
    faults.check .flushTemporary
    faults.check .syncTemporary
    faults.check .rename
    workspace.placeOf path
  match place with
  | .ok place =>
    let filled := workspace.tree.put temporary (.file text.toUTF8)
    ({ workspace with tree := filled.move temporary place }, .ok ())
  | .error cause => ({ workspace with tree := workspace.tree.remove temporary }, .error cause)

/-- Puts a file with the given text at a path, in place of what lies there. -/
def replaceFile (workspace : Workspace) (faults : Faults) (path : FilePath) (text : String) :
    Workspace × Except FileError Unit :=
  match workspace.makeDirectoriesUnless (fun place => faults.cause? (.makeDirectory place))
    (directoryOf path) with
  | (tree, .error cause) => ({ workspace with tree }, .error cause)
  | (tree, .ok directory) =>
    match faults.check .createTemporary with
    | .error cause => ({ workspace with tree }, .error cause)
    | .ok () =>
      let temporary := directory ++ [tree.unusedName]
      let begun := { workspace with tree := tree.put temporary (.file ByteArray.empty) }
      begun.fillAndRename faults temporary path text

/-- Writes a text to a path unless the file there has it. -/
def publish (workspace : Workspace) (faults : Faults) (path : FilePath) (text : String) :
    Workspace × Except Failure Publication :=
  match workspace.outputPathProblem? path with
  | some problem => (workspace, .error (.outputPath path problem))
  | none =>
    match workspace.freshness faults path text with
    | .error failure => (workspace, .error failure)
    | .ok .upToDate => (workspace, .ok .unchanged)
    | .ok _ =>
      match workspace.replaceFile faults path text with
      | (after, .ok ()) => (after, .ok .written)
      | (after, .error cause) => (after, .error (.write path cause))

end Workspace

end Registrar
