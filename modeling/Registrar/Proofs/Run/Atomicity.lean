import Registrar.Proofs.Run.Modes
import Registrar.Proofs.Workspace.Rollback

/-!
# All or nothing

Whatever a run does and wherever it fails, it leaves every file alone but the one at the path of its
artifact, and there it leaves what was there or the whole of its artifact. Each step of a
publication may fail for reasons that do not lie in the file tree, the making of each directory
among them. All that is asked of these is that the old artifact is reported missing only where it
is.
-/

namespace Registrar

namespace Workspace

/-- Whether everything stays as it was but for directories that are added and for what lies at a
path itself. A link at the path is not followed, as it may be replaced by a file. -/
structure KeepsOthers (before after : Workspace) (path : FilePath) : Prop where
  kept : ∀ location entry, before.tree.entry? location = some entry →
    before.locate path false ≠ .ok location → after.tree.entry? location = some entry
  fresh : ∀ location entry, after.tree.entry? location = some entry →
    after.locate path false ≠ .ok location →
    before.tree.entry? location = some entry ∨ entry = .directory

variable {before after : Workspace} {path : FilePath}

theorem IsUnwritten.keepsOthers (unwritten : IsUnwritten before after path) :
    before.KeepsOthers after path where
  kept := fun location entry present _ => unwritten.adds.keeps location entry present
  fresh := by
    intro location entry present _
    by_cases isDirectory : entry = .directory
    · exact Or.inr isDirectory
    · exact Or.inl (unwritten.adds.entry?_of_ne_directory present isDirectory)

theorem IsWritten.keepsOthers {content : ByteArray} {place : Location}
    (written : IsWritten before after path content place) : before.KeepsOthers after path where
  kept := by
    intro location entry present elsewhere
    have differs : location ≠ place := by
      rintro rfl
      exact elsewhere (written.locatedBefore entry present)
    exact written.kept location entry differs present
  fresh := by
    intro location entry present elsewhere
    have differs : location ≠ place := by
      rintro rfl
      exact elsewhere written.locatedItself
    exact written.fresh location entry differs present

end Workspace

/-- Whether a run left its workspace as it was and has nothing written to report. -/
structure RunResult.Keeps (result : RunResult) (workspace : Workspace) : Prop where
  unchanged : result.workspace = workspace
  notWritten : ∀ report path, result.report = .ok report → report.outcome ≠ .written path

theorem RunResult.Keeps.of_error {result : RunResult} {workspace : Workspace} {failure : Failure}
    (unchanged : result.workspace = workspace) (failed : result.report = .error failure) :
    result.Keeps workspace := by
  refine ⟨unchanged, fun report path ran => ?_⟩
  rw [failed] at ran
  cases ran

theorem RunResult.Keeps.of_outcome {result : RunResult} {workspace : Workspace} {report : Report}
    (unchanged : result.workspace = workspace) (ran : result.report = .ok report)
    (notWritten : ∀ path, report.outcome ≠ .written path) : result.Keeps workspace := by
  refine ⟨unchanged, fun other path same => ?_⟩
  rcases Except.ok.inj (ran.symm.trans same) with rfl
  exact notWritten path

namespace Config

open Workspace

variable {config : Config} {workspace : Workspace} {circumstances : Circumstances}

theorem keeps_check (config : Config) (workspace : Workspace) (faults : Faults)
    (artifact : Artifact) (report : Report) :
    (config.check workspace faults artifact report).Keeps workspace := by
  rcases compared : workspace.freshness faults config.outputPath artifact.source with
    failure | freshness
  · refine .of_error ?_ (?_ : _ = Except.error failure) <;> simp only [check, compared]
  · rcases check_of_freshness compared with ⟨unchanged, checked, ran, outcome⟩
    apply RunResult.Keeps.of_outcome unchanged ran
    rw [outcome]
    cases freshness <;> simp [comparisonOutcome]

/-- Whether a run did what the publication of a text did that failed or wrote the text. -/
def Publishes (config : Config) (workspace : Workspace) (faults : Faults) (text : String)
    (result : RunResult) : Prop :=
  (∃ failure, result.report = .error failure ∧
      workspace.publish faults config.outputPath text = (result.workspace, .error failure)) ∨
    (∃ report, result.report = .ok report ∧ report.outcome = .written config.outputPath) ∧
      workspace.publish faults config.outputPath text = (result.workspace, .ok .written)

theorem keeps_or_publishes_write (config : Config) (workspace : Workspace) (faults : Faults)
    (artifact : Artifact) (report : Report) :
    (config.write workspace faults artifact report).Keeps workspace ∨
      config.Publishes workspace faults artifact.source
        (config.write workspace faults artifact report) := by
  rcases published : workspace.publish faults config.outputPath artifact.source with
    ⟨after, failure | publication⟩
  · right
    left
    simp only [write, published]
    exact ⟨failure, rfl, rfl⟩
  · cases publication with
    | unchanged =>
        left
        rcases publish_eq_ok published with ⟨_, _, ⟨_, _, rfl⟩ | ⟨_, isWritten⟩⟩
        · rcases @write_of_unchanged _ _ _ report _ published with
            ⟨unchanged, written, ran, outcome⟩
          exact .of_outcome unchanged ran (by simp [outcome])
        · cases isWritten
    | written =>
        right
        right
        refine ⟨write_of_written published, ?_⟩
        simp only [write, published]

/-- What a run comes to for the file tree: it leaves the tree alone, or it is a run that writes and
does what the publication of its artifact does. -/
theorem keeps_or_publishes_run (config : Config) (workspace : Workspace)
    (circumstances : Circumstances) (mode : RunMode) :
    (config.run workspace circumstances mode).Keeps workspace ∨
      mode = .write ∧ ∃ survey artifact, config.survey workspace = .ok survey ∧
        config.artifactFor workspace circumstances survey = .ok artifact ∧
        config.Publishes workspace circumstances.faults artifact.source
          (config.run workspace circumstances mode) := by
  rcases surveyed : config.survey workspace with failure | survey
  · left
    refine .of_error ?_ (?_ : _ = Except.error failure) <;> simp only [run, surveyed]
  · cases empty : survey.aggregation.isEmpty with
    | true =>
        rcases run_of_isEmpty surveyed empty circumstances mode with
          ⟨unchanged, report, ran, skipped, _⟩
        exact Or.inl (.of_outcome unchanged ran (by simp [skipped]))
    | false =>
        rcases made : config.artifactFor workspace circumstances survey with failure | artifact
        · left
          refine .of_error ?_ (?_ : _ = Except.error failure) <;>
            simp only [run, surveyed, conclude, empty, made, Bool.false_eq_true, if_false]
        · rcases @run_of_artifact _ _ _ mode _ _ surveyed empty made with
            ⟨sameWorkspace, sameReport⟩
          cases mode with
          | check =>
              rcases config.keeps_check workspace circumstances.faults artifact _ with
                ⟨unchanged, notWritten⟩
              exact Or.inl ⟨sameWorkspace.trans unchanged, by rwa [sameReport]⟩
          | dryRun =>
              rcases run_dryRun_of_artifact surveyed empty made with
                ⟨unchanged, shown, ran, outcome, _⟩
              exact Or.inl (.of_outcome unchanged ran (by simp [outcome]))
          | write =>
              rcases config.keeps_or_publishes_write workspace circumstances.faults artifact _ with
                ⟨unchanged, notWritten⟩ | publishes
              · exact Or.inl ⟨sameWorkspace.trans unchanged, by rwa [sameReport]⟩
              · right
                refine ⟨rfl, survey, artifact, rfl, made, ?_⟩
                rw [Publishes, sameWorkspace, sameReport]
                exact publishes

/-- Runs are all or nothing. A run leaves everything alone but what lies at the path of its
artifact, and adds nothing else but directories, so that no temporary file remains. It changes
nothing at all unless it is a run that writes, finds something to register and finds another
artifact in place. Where it fails, whichever step fails, what is at the path stays there or missing.
Where it reports its artifact written, the path leads to the whole text of the artifact, which is a
source file. -/
theorem runs_are_atomic (wellFormed : workspace.WellFormed)
    (truthful : circumstances.faults.cause? .readOld = some .notFound →
      workspace.read config.outputPath = .error .notFound) (mode : RunMode) :
    let result := config.run workspace circumstances mode
    workspace.KeepsOthers result.workspace config.outputPath ∧
      (mode = .check ∨ mode = .dryRun ∨
          (∃ report, result.report = .ok report ∧ ∀ path, report.outcome ≠ .written path) →
        result.workspace = workspace) ∧
      (∀ failure, result.report = .error failure →
        workspace.IsUnwritten result.workspace config.outputPath) ∧
      ∀ report path, result.report = .ok report → report.outcome = .written path →
        path = config.outputPath ∧ ∃ survey artifact, config.survey workspace = .ok survey ∧
          config.artifactFor workspace circumstances survey = .ok artifact ∧
          result.workspace.read path = .ok artifact.source.toUTF8 ∧
          (Source.items? artifact.source.toList).isSome = true := by
  intro result
  rcases config.keeps_or_publishes_run workspace circumstances mode with
    ⟨unchanged, notWritten⟩ | ⟨rfl, survey, artifact, surveyed, made, failed | written⟩
  · have unwritten : workspace.IsUnwritten result.workspace config.outputPath := by
      rw [show result.workspace = workspace from unchanged]
      exact .refl _ _
    refine ⟨unwritten.keepsOthers, fun _ => unchanged, fun _ _ => unwritten, ?_⟩
    intro report path ran outcome
    exact absurd outcome (notWritten report path ran)
  · rcases failed with ⟨failure, failed, published⟩
    have unwritten := isUnwritten_of_publish wellFormed published
    refine ⟨unwritten.keepsOthers, ?_, fun _ _ => unwritten, ?_⟩
    · rintro (isCheck | isDryRun | ⟨report, ran, _⟩)
      · cases isCheck
      · cases isDryRun
      · cases failed.symm.trans ran
    · intro report path ran
      cases failed.symm.trans ran
  · rcases written with ⟨⟨report, ran, written⟩, published⟩
    rcases isWritten_of_publish wellFormed truthful published with ⟨place, isWritten⟩
    refine ⟨isWritten.keepsOthers, ?_, ?_, ?_⟩
    · rintro (isCheck | isDryRun | ⟨other, ranOther, notWritten⟩)
      · cases isCheck
      · cases isDryRun
      · rcases Except.ok.inj (ran.symm.trans ranOther) with rfl
        exact absurd written (notWritten _)
    · intro failure failed
      cases failed.symm.trans ran
    · intro other path ranOther writtenOther
      rcases Except.ok.inj (ran.symm.trans ranOther) with rfl
      rcases Outcome.written.inj (written.symm.trans writtenOther) with rfl
      rcases Artifact.exists_render_of_renderStable made with ⟨instant, rendered⟩
      rcases Artifact.render_eq_ok.1 rendered with ⟨_, isSource, rfl⟩
      refine ⟨rfl, survey, _, surveyed, made, isWritten.read, ?_⟩
      rwa [String.toList_ofList]

end Config

namespace Sample

/-- The steps in which an old file is replaced. -/
def replacingSteps : List PublicationStep :=
  [.createTemporary, .writeTemporary, .flushTemporary, .syncTemporary, .rename]

/-- The start of 1970, with one step that fails. -/
def circumstancesFailing (step : PublicationStep) : Circumstances :=
  { circumstances with faults.cause? := fun other =>
      if other = step then some .isADirectory else none }

theorem replaceFile_failing : ∀ text ∈ outdatedTexts, ∀ step ∈ replacingSteps,
    ((workspaceWith text).replaceFile (circumstancesFailing step).faults config.outputPath
      source).2 = .error .isADirectory ∧
      (circumstancesFailing step).faults.cause? .readOld = none := by
  decide +kernel

/-- A run that fails to write over an outdated text fails for this reason. -/
theorem run_write_failing {text : String} {step : PublicationStep}
    (isText : text ∈ outdatedTexts) (differs : Digest.ofText text ≠ Digest.ofText source)
    (isStep : step ∈ replacingSteps) :
    (config.run (workspaceWith text) (circumstancesFailing step) .write).report =
      .error (.write config.outputPath .isADirectory) := by
  have outdated := isOutdated_of_mem text isText
  rcases outdated.exists_artifactFor with ⟨survey, surveyed, found, made⟩
  rcases replaceFile_failing text isText step isStep with ⟨failed, readable⟩
  have nonempty : survey.aggregation.isEmpty = false := by
    rw [found]
    rfl
  have madeFailing : config.artifactFor (workspaceWith text) (circumstancesFailing step) survey =
      .ok ⟨source, Candidate.collisions (Candidate.sorted aggregation.candidates)⟩ :=
    (Artifact.renderStable_congr rfl rfl).trans made
  rcases outcome : (workspaceWith text).replaceFile (circumstancesFailing step).faults
    config.outputPath source with ⟨after, replaced⟩
  rw [outcome] at failed
  subst failed
  exact Config.run_write_of_failed surveyed nonempty madeFailing
    (Workspace.publish_of_stale outdated.prepared.noProblem
      (outdated.freshness_eq differs readable) outcome)

/-- A run that writes in the small workspace writes the whole artifact and touches nothing else. One
that fails in a step of the replacement of an outdated text leaves this text and everything else. -/
theorem runs_are_atomic_workspace :
    (workspace.KeepsOthers (config.run workspace circumstances .write).workspace
        config.outputPath ∧
      ∃ survey artifact, config.survey workspace = .ok survey ∧
        config.artifactFor workspace circumstances survey = .ok artifact ∧
        (config.run workspace circumstances .write).workspace.read config.outputPath =
          .ok artifact.source.toUTF8 ∧
        (Source.items? artifact.source.toList).isSome = true) ∧
    ∃ text ∈ outdatedTexts, ∀ step ∈ replacingSteps,
      let result := config.run (workspaceWith text) (circumstancesFailing step) .write
      result.report = .error (.write config.outputPath .isADirectory) ∧
        (workspaceWith text).KeepsOthers result.workspace config.outputPath ∧
        result.workspace.read config.outputPath = .ok text.toUTF8 := by
  constructor
  · rcases run_write with ⟨report, ran, outcome⟩
    rcases @Config.runs_are_atomic config workspace circumstances wellFormed_workspace nofun .write
      with ⟨keepsOthers, _, _, written⟩
    exact ⟨keepsOthers, (written report config.outputPath ran outcome).2⟩
  · rcases exists_outdated source with ⟨text, isText, differs⟩
    refine ⟨text, isText, fun step isStep => ?_⟩
    have failed := run_write_failing isText differs isStep
    have readable := (replaceFile_failing text isText step isStep).2
    rcases @Config.runs_are_atomic config (workspaceWith text) (circumstancesFailing step)
      (wellFormed_workspaceWith text) (by simp [readable]) .write with
      ⟨keepsOthers, _, unwritten, _⟩
    refine ⟨failed, keepsOthers, ?_⟩
    rw [← Workspace.toOption_eq_some_iff, (unwritten _ failed).read,
      Workspace.toOption_eq_some_iff]
    exact (isOutdated_of_mem text isText).read_eq

end Sample

end Registrar
