import Registrar.Aggregation
import Registrar.Artifact.Collision
import Registrar.Config.Options
import Registrar.JsonText

/-!
# Reports

What a run has to say at its end: what became of the artifact, what was found, and what was left
out. A report is written as JSON with its fields in a fixed order.
-/

namespace Registrar

/-- What became of the artifact. -/
inductive Outcome
  /-- Nothing was found that could be registered, and nothing was written. -/
  | skippedEmpty
  | written (path : FilePath)
  | unchanged (path : FilePath)
  | upToDate (path : FilePath)
  | stale (path : FilePath)
  | rendered
  deriving DecidableEq, Repr

namespace Outcome

/-- How an outcome is called in reports. -/
def label : Outcome → String
  | skippedEmpty => "skipped_empty"
  | written _ => "written"
  | unchanged _ => "unchanged"
  | upToDate _ => "up_to_date"
  | stale _ => "stale"
  | rendered => "rendered"

/-- The path that an outcome is about, if it is about one. -/
def path? : Outcome → Option FilePath
  | skippedEmpty | rendered => none
  | written path | unchanged path | upToDate path | stale path => some path

/-- Whether the file at the path of the artifact was found to be out of date. -/
def isStale : Outcome → Bool
  | stale _ => true
  | _ => false

end Outcome

/-- What a run has to say at its end. -/
structure Report where
  mode : RunMode
  outcome : Outcome
  filesMatched : Nat
  filesExcluded : Nat
  priorOutputsSkipped : Nat
  declarations : List String
  serializer : Option OverrideBinding
  deserializer : Option OverrideBinding
  keyCollisions : List KeyCollision
  /-- An artifact of an earlier run that a run without findings left where it is. -/
  leftoverArtifact : Option FilePath
  statistics : ScanStatistics
  /-- The artifact, where it was only to be shown. -/
  rendered : Option String
  deriving DecidableEq, Repr

namespace Report

open JsonValue (list number object optionalText text)

/-- An outcome in a report, with the path that it is about. -/
def outcomeValue (outcome : Outcome) : JsonValue :=
  object (("status", text outcome.label) ::
    (outcome.path?.map fun path => ("path", text path.text)).toList)

/-- A conversion that was taken over, in a report. -/
def overrideValue : Option OverrideBinding → JsonValue
  | none => .null
  | some binding => object [("kind", text binding.kind.label), ("name", text binding.name),
      ("module", text binding.module)]

/-- Two declarations with the same key, in a report. -/
def collisionValue (collision : KeyCollision) : JsonValue :=
  object [("key", text collision.key), ("kept", text collision.kept),
    ("shadowed", text collision.shadowed)]

/-- A file that could not be read as it is reported. -/
def failureValue (failure : FileFailure) : JsonValue :=
  object [("file", text failure.file.text), ("error", text failure.error)]

/-- A rejected declaration in a report, with the reasons. -/
def rejectionValue (record : RejectionRecord) : JsonValue :=
  object [("file", text record.file.text), ("declaration", text record.declaration),
    ("reasons", list (record.reasons.map text))]

/-- What happened to the files of a run as it is reported. -/
def statisticsValue (statistics : ScanStatistics) : JsonValue :=
  object [("files_scanned", number statistics.filesScanned),
    ("files_not_applicable", number statistics.filesNotApplicable),
    ("prior_outputs_skipped", number statistics.priorOutputsSkipped),
    ("failures", list (statistics.failures.map failureValue)),
    ("rejections", list (statistics.rejections.map rejectionValue))]

/-- The fields of a report, in their order. -/
def fields (report : Report) : List (String × JsonValue) :=
  [("mode", text report.mode.label),
    ("outcome", outcomeValue report.outcome),
    ("files_matched", number report.filesMatched),
    ("files_excluded", number report.filesExcluded),
    ("prior_outputs_skipped", number report.priorOutputsSkipped),
    ("declarations", list (report.declarations.map text)),
    ("serializer", overrideValue report.serializer),
    ("deserializer", overrideValue report.deserializer),
    ("key_collisions", list (report.keyCollisions.map collisionValue)),
    ("leftover_artifact", optionalText (report.leftoverArtifact.map FilePath.text)),
    ("scan", statisticsValue report.statistics)]

/-- The text of a report, which also tells how many milliseconds the run took. -/
def indented (report : Report) (milliseconds : Nat) : List Char :=
  (object (report.fields ++ [("duration_ms", number milliseconds)])).indented

end Report

end Registrar
