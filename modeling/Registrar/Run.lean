import Registrar.Artifact
import Registrar.Header
import Registrar.Publication
import Registrar.Report
import Registrar.SourceDate
import Registrar.Survey

/-!
# Runs

A run surveys the sources, renders the artifact and then writes it, compares it with the file at
its path, or only hands it over. The stamp of the artifact moves only with its body: where
rendering with the stamp of the file at its path gives that very file, this is the artifact. A
source date goes before both.
-/

namespace Registrar

/-- What a run depends on besides its configuration and the file tree. -/
structure Circumstances where
  sourceDate : SourceDate
  clock : Instant
  faults : Faults

/-- What a run leaves: the workspace, the events and a report or a failure. -/
structure RunResult where
  workspace : Workspace
  events : List Event
  report : Except Failure Report

namespace Artifact

/-- Whether a text is there and is that of the artifact. -/
def isText (artifact : Artifact) (text : Option String) : Bool := some artifact.source == text

/-- The artifact for an aggregation, where the file at its path has the given text. -/
def renderStable (settings : ArtifactSettings) (aggregation : Aggregation)
    (circumstances : Circumstances) (existing : Option String) : Except Failure Artifact :=
  match circumstances.sourceDate.instant? with
  | some instant => render settings aggregation instant
  | none =>
    match existing.bind fun text => Header.generatedAt? text.toList with
    | none => render settings aggregation circumstances.clock.truncated
    | some previous => do
      let artifact ← render settings aggregation previous
      if artifact.isText existing then return artifact
      else render settings aggregation circumstances.clock.truncated

/-- The event that tells that a source date is no integer. -/
def sourceDateEvents : SourceDate → List Event
  | .unreadable value => [.sourceDateIgnored value]
  | _ => []

/-- The event that tells that the file at the path of an artifact has a stamp that is given up. -/
def restampEvents (circumstances : Circumstances) (path : FilePath) (existing : Option String)
    (rendered : Except Failure Artifact) : List Event :=
  match circumstances.sourceDate.instant?, rendered with
  | none, .ok artifact =>
    if (existing.bind fun text => Header.generatedAt? text.toList).isSome &&
        !artifact.isText existing then [.artifactRestamped path]
    else []
  | _, _ => []

end Artifact

namespace Config

/-- The report on a survey, before the artifact is made. -/
def initialReport (mode : RunMode) (survey : Survey) : Report where
  mode
  outcome := .skippedEmpty
  filesMatched := survey.discovery.files.length
  filesExcluded := survey.discovery.excluded
  priorOutputsSkipped :=
    survey.discovery.priorOutputs + survey.aggregation.statistics.priorOutputsSkipped
  declarations := survey.aggregation.candidates.map Candidate.qualifiedName
  serializer := survey.aggregation.serializer
  deserializer := survey.aggregation.deserializer
  keyCollisions := []
  leftoverArtifact := none
  statistics := survey.aggregation.statistics
  rendered := none

/-- What a run does that found nothing: an artifact of an earlier run stays where it is. -/
def leaveEmpty (config : Config) (workspace : Workspace) (report : Report) : RunResult :=
  if workspace.isFile config.outputPath then
    { workspace
      events := [.nothingFound, .artifactLeft config.outputPath]
      report := .ok { report with leftoverArtifact := some config.outputPath } }
  else { workspace, events := [.nothingFound], report := .ok report }

/-- Publishes the artifact, and reports whether it was written or was there already. -/
def write (config : Config) (workspace : Workspace) (faults : Faults) (artifact : Artifact)
    (report : Report) : RunResult :=
  let path := config.outputPath
  match workspace.publish faults path artifact.source with
  | (after, .ok .written) =>
    { workspace := after
      events := [.artifactWritten path report.declarations.length]
      report := .ok { report with outcome := .written path } }
  | (after, .ok .unchanged) =>
    { workspace := after
      events := [.publicationSkipped path, .artifactUnchanged path]
      report := .ok { report with outcome := .unchanged path } }
  | (after, .error failure) =>
    { workspace := after
      events := [.publicationFailed path failure]
      report := .error failure }

/-- Compares the artifact with the file at its path. -/
def check (config : Config) (workspace : Workspace) (faults : Faults) (artifact : Artifact)
    (report : Report) : RunResult :=
  let path := config.outputPath
  match workspace.freshness faults path artifact.source with
  | .ok .upToDate =>
    { workspace, events := [], report := .ok { report with outcome := .upToDate path } }
  | .ok _ =>
    { workspace
      events := [.artifactOutdated path]
      report := .ok { report with outcome := .stale path } }
  | .error failure => { workspace, events := [], report := .error failure }

/-- Does with the artifact what the mode asks for. -/
def deliver (config : Config) (workspace : Workspace) (faults : Faults) (mode : RunMode)
    (artifact : Artifact) (report : Report) : RunResult :=
  match mode with
  | .write => config.write workspace faults artifact report
  | .check => config.check workspace faults artifact report
  | .dryRun =>
    { workspace
      events := []
      report := .ok { report with outcome := .rendered, rendered := some artifact.source } }

/-- The text of the file at the path of the artifact, if there is one. -/
def existingText? (config : Config) (workspace : Workspace) : Option String :=
  (workspace.readText config.outputPath).toOption

/-- The artifact for a survey, by what is at its path. -/
def artifactFor (config : Config) (workspace : Workspace) (circumstances : Circumstances)
    (survey : Survey) : Except Failure Artifact :=
  Artifact.renderStable config.artifactSettings survey.aggregation circumstances
    (config.existingText? workspace)

/-- The events that tell of the stamp of an artifact and of its collisions. -/
def artifactEvents (config : Config) (workspace : Workspace) (circumstances : Circumstances)
    (rendered : Except Failure Artifact) : List Event :=
  Artifact.sourceDateEvents circumstances.sourceDate ++
    Artifact.restampEvents circumstances config.outputPath (config.existingText? workspace)
      rendered ++
    match rendered with
    | .ok artifact => artifact.collisions.map .keyCollided
    | .error _ => []

/-- What a run does after its survey. -/
def conclude (config : Config) (workspace : Workspace) (circumstances : Circumstances)
    (mode : RunMode) (survey : Survey) : RunResult :=
  let report := initialReport mode survey
  if survey.aggregation.isEmpty then config.leaveEmpty workspace report
  else
    let rendered := config.artifactFor workspace circumstances survey
    let events := config.artifactEvents workspace circumstances rendered
    match rendered with
    | .error failure => { workspace, events, report := .error failure }
    | .ok artifact =>
      let result := config.deliver workspace circumstances.faults mode artifact
        { report with keyCollisions := artifact.collisions }
      { result with events := events ++ result.events }

/-- A run of the given mode in a workspace. -/
def run (config : Config) (workspace : Workspace) (circumstances : Circumstances)
    (mode : RunMode) : RunResult :=
  match config.survey workspace with
  | .error failure => { workspace, events := [], report := .error failure }
  | .ok survey =>
    let result := config.conclude workspace circumstances mode survey
    { result with events := survey.events ++ result.events }

end Config

end Registrar
