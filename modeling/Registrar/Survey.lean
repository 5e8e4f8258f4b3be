import Registrar.Config
import Registrar.Event

/-!
# Surveys

What a run finds before it makes anything: the files below the base directory, the selection among
them, and what came of the examination of each selected file. The events of a survey follow from
what it found.
-/

namespace Registrar

namespace Selector

/-- The event that tells of a file that was found, if there is one. -/
def fileEvent? (selector : Selector) (file : FoundFile) : Option Event :=
  match selector.select file.relative with
  | .priorOutput =>
    if selector.hasGeneratedName file.relative then some (.generatedFileIgnored file.relative)
    else some (.outputDirectoryFileSkipped file.relative)
  | _ => none

/-- The event that tells of what a walk from a base directory came upon, if there is one. -/
def visitEvent? (selector : Selector) (base : FilePath) : Visit → Option Event
  | .file names => selector.fileEvent? (.below base names)
  | .unreadable names cause => some (.directoryUnreadable (FoundFile.below base names).path cause)

/-- The events that tell of a walk. -/
def events (selector : Selector) (base : FilePath) (visits : List Visit) : List Event :=
  visits.filterMap (selector.visitEvent? base) ++
    [.discoveryDone (selector.discoveryOf (FoundFile.ofVisits base visits))]

end Selector

namespace Aggregation

/-- The event that tells of a verdict on a declaration in a file, if there is one. -/
def verdictEvent? (file : FilePath) : Verdict → Option Event
  | .qualifies candidate => some (.declarationFound candidate)
  | .rejected rejection => some (.declarationExcluded file rejection)
  | .notApplicable => none

/-- The events that tell of further overrides of a kind in a module. -/
def overrideEvents (kind : OverrideKind) (module : String) :
    Option OverrideBinding → List String → List Event
  | _, [] => []
  | none, name :: others =>
    .overrideFound ⟨kind, name, module⟩ ::
      overrideEvents kind module (some ⟨kind, name, module⟩) others
  | some held, name :: others =>
    .overrideReplaced kind held.name name ::
      overrideEvents kind module (some ⟨kind, name, module⟩) others

/-- The events that tell of what was found in a file. -/
def findingEvents (aggregation : Aggregation) (file : FilePath) (findings : Findings) :
    List Event :=
  findings.verdicts.filterMap (verdictEvent? file) ++
    overrideEvents .serializer findings.module aggregation.serializer findings.serializers ++
    overrideEvents .deserializer findings.module aggregation.deserializer findings.deserializers

/-- The events that tell of a file that was examined. -/
def fileEvents (aggregation : Aggregation) (examined : ExaminedFile) : List Event :=
  match examined.examination with
  | .scanned findings => aggregation.findingEvents examined.file findings
  | .notApplicable reason => [.fileNotApplicable examined.file reason]
  | .priorOutput => [.generatedHeaderSkipped examined.file]
  | .failed error => [.fileFailed examined.file error]

/-- The events that tell of the next files. -/
def eventsAfter (aggregation : Aggregation) : List ExaminedFile → List Event
  | [] => [.aggregationDone aggregation]
  | examined :: others =>
    aggregation.fileEvents examined ++ (aggregation.record examined).eventsAfter others

end Aggregation

/-- What a run finds. -/
structure Survey where
  discovery : Discovery
  examined : List ExaminedFile
  discoveryEvents : List Event

namespace Survey

/-- The findings, taken together. -/
def aggregation (survey : Survey) : Aggregation := Aggregation.ofFiles survey.examined

/-- The events of a survey: those of the walk, and then those of the files. -/
def events (survey : Survey) : List Event :=
  survey.discoveryEvents ++ Aggregation.empty.eventsAfter survey.examined

end Survey

/-- What a run finds in a workspace. -/
def Config.survey (config : Config) (workspace : Workspace) : Except Failure Survey := do
  let selector ← config.selector
  let visits ← (workspace.visits config.baseDirectory).mapError (.walk config.baseDirectory)
  let discovery := selector.discoveryOf (FoundFile.ofVisits config.baseDirectory visits)
  return {
    discovery
    examined := config.scope.examineAll workspace discovery.files
    discoveryEvents := selector.events config.baseDirectory visits }

end Registrar
