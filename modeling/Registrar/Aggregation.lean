import Registrar.Findings

/-!
# Aggregation

The findings of the files of a run, taken together in the order of the files. A declaration that is
found again takes the place of the first one of its identity; of several overrides of one
conversion the last one holds. Nothing that goes wrong with one file keeps the others out.
-/

namespace Registrar

/-- A declaration that was rejected, with the file that holds it. -/
structure RejectionRecord where
  file : FilePath
  declaration : String
  reasons : List String
  deriving DecidableEq, Repr

/-- A file that could not be examined, and why. -/
structure FileFailure where
  file : FilePath
  error : String
  deriving DecidableEq, Repr

/-- What happened to the files of a run. -/
structure ScanStatistics where
  filesScanned : Nat
  filesNotApplicable : Nat
  priorOutputsSkipped : Nat
  failures : List FileFailure
  rejections : List RejectionRecord
  deriving DecidableEq, Repr

/-- The findings of the files so far. -/
structure Aggregation where
  candidates : List Candidate
  serializer : Option OverrideBinding
  deserializer : Option OverrideBinding
  statistics : ScanStatistics
  deriving DecidableEq, Repr

namespace Aggregation

/-- The aggregation of no files. -/
def empty : Aggregation where
  candidates := []
  serializer := none
  deserializer := none
  statistics := ⟨0, 0, 0, [], []⟩

/-- Whether there is nothing to register. -/
def isEmpty (aggregation : Aggregation) : Bool := aggregation.candidates.isEmpty

/-- Puts a candidate in the place of the one with its identity, or at the end. -/
def insertCandidate (candidates : List Candidate) (candidate : Candidate) : List Candidate :=
  match candidates with
  | [] => [candidate]
  | first :: others =>
    if first.id = candidate.id then candidate :: others
    else first :: insertCandidate others candidate

/-- The override that holds after further ones of its kind in a module. -/
def lastOverride (kind : OverrideKind) (module : String) (held : Option OverrideBinding)
    (names : List String) : Option OverrideBinding :=
  names.foldl (fun _ name => some ⟨kind, name, module⟩) held

/-- The record of a rejection in a file. -/
def recordOf (file : FilePath) (rejection : Rejection) : RejectionRecord :=
  ⟨file, rejection.declaration, rejection.reasons⟩

/-- Takes in the findings of a file. -/
def absorb (aggregation : Aggregation) (file : FilePath) (findings : Findings) : Aggregation where
  candidates := findings.candidates.foldl insertCandidate aggregation.candidates
  serializer := lastOverride .serializer findings.module aggregation.serializer findings.serializers
  deserializer :=
    lastOverride .deserializer findings.module aggregation.deserializer findings.deserializers
  statistics := { aggregation.statistics with
    filesScanned := aggregation.statistics.filesScanned + 1
    rejections :=
      aggregation.statistics.rejections ++ findings.rejections.map (recordOf file) }

/-- Takes in what came of the examination of a file. -/
def record (aggregation : Aggregation) (examined : ExaminedFile) : Aggregation :=
  let statistics := aggregation.statistics
  match examined.examination with
  | .scanned findings => aggregation.absorb examined.file findings
  | .notApplicable _ => { aggregation with statistics := { statistics with
      filesNotApplicable := statistics.filesNotApplicable + 1 } }
  | .priorOutput => { aggregation with statistics := { statistics with
      priorOutputsSkipped := statistics.priorOutputsSkipped + 1 } }
  | .failed error => { aggregation with statistics := { statistics with
      failures := statistics.failures ++ [⟨examined.file, error⟩] } }

/-- What is found in files that are examined one after the other. -/
def ofFiles (files : List ExaminedFile) : Aggregation :=
  files.foldl record empty

end Aggregation

end Registrar
