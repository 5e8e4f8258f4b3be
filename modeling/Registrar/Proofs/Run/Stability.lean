import Mathlib.Data.List.Forall2
import Registrar.Proofs.Run.Modes
import Registrar.Proofs.Run.Resurvey

/-!
# Runs that find their artifact in place

After a run has written its artifact, or has found it in place, the artifact is settled: it is the
one that is made with its own stamp from what a survey takes together. Every run that no source date
asks for another stamp makes the same artifact then, leaves the workspace as it is, and so leaves
the artifact settled.
-/

namespace Registrar

namespace SourceDate

/-- A source date fixes a whole second. -/
theorem nanoseconds_of_ofVariable {setting : Option String} {instant : Instant}
    (date : (ofVariable setting).instant? = some instant) : instant.nanoseconds = 0 := by
  cases setting with
  | none => cases date
  | some value =>
      rw [ofVariable, ofText] at date
      split at date
      · cases date
      · rename_i seconds _
        split at date
        · rename_i found ofSeconds
          rw [Instant.ofSeconds?] at ofSeconds
          split at ofSeconds
          · rcases Option.some.inj ofSeconds with rfl
            rcases Option.some.inj date with rfl
            rfl
          · cases ofSeconds
        · cases date

end SourceDate

namespace Config

/-- The results of runs one after the other, each in the workspace that the one before it left. -/
def runs (config : Config) : Workspace → List (Circumstances × RunMode) → List RunResult
  | _, [] => []
  | workspace, (circumstances, mode) :: rest =>
    let result := config.run workspace circumstances mode
    result :: config.runs result.workspace rest

/-- Whether the artifact at its path is the one that its own stamp asks for. -/
structure IsSettled (config : Config) (workspace : Workspace) (artifact : Artifact) : Prop where
  descends : Component.parent ∉ config.outputPath.components
  read : workspace.read config.outputPath = .ok artifact.source.toUTF8
  made : ∃ survey stamp, config.survey workspace = .ok survey ∧
    Header.generatedAt? artifact.source.toList = some stamp ∧
    Artifact.render config.artifactSettings survey.aggregation stamp = .ok artifact

/-- What a run reports in each mode that finds its artifact in place. -/
def settledOutcome (config : Config) : RunMode → Outcome
  | .write => .unchanged config.outputPath
  | .check => .upToDate config.outputPath
  | .dryRun => .rendered

/-- Whether a run left a workspace as it was and found its artifact in place. -/
structure Confirms (config : Config) (workspace : Workspace) (mode : RunMode)
    (result : RunResult) : Prop where
  unchanged : result.workspace = workspace
  report : ∃ report, result.report = .ok report ∧ report.outcome = config.settledOutcome mode ∧
    (mode = .dryRun → ∃ text, report.rendered = some text ∧
      workspace.read config.outputPath = .ok text.toUTF8)

variable {config : Config} {workspace : Workspace} {circumstances : Circumstances}
  {artifact : Artifact}

namespace IsSettled

variable (settled : config.IsSettled workspace artifact)

include settled

theorem freshness_eq (readable : circumstances.faults.cause? .readOld = none) :
    workspace.freshness circumstances.faults config.outputPath artifact.source =
      .ok .upToDate := by
  simp only [Workspace.freshness, Faults.check, readable, settled.read, bind, Except.bind,
    Digest.ofText, if_true]

theorem publish_eq (readable : circumstances.faults.cause? .readOld = none) :
    workspace.publish circumstances.faults config.outputPath artifact.source =
      (workspace, .ok .unchanged) := by
  have notDirectory : workspace.isDirectory config.outputPath = false :=
    Workspace.isDirectory_of_read settled.read
  have noProblem : workspace.outputPathProblem? config.outputPath = none := by
    rw [Workspace.outputPathProblem?, if_neg (by simpa using settled.descends), notDirectory]
    rfl
  rw [Workspace.publish, noProblem]
  simp only [settled.freshness_eq readable]

/-- A run makes a settled artifact again unless a source date asks for another stamp. -/
theorem artifactFor_eq (noDate : circumstances.sourceDate.instant? = none) :
    ∃ survey, config.survey workspace = .ok survey ∧ survey.aggregation.isEmpty = false ∧
      config.artifactFor workspace circumstances survey = .ok artifact := by
  rcases settled.made with ⟨survey, stamp, surveyed, told, rendered⟩
  refine ⟨survey, surveyed, (Artifact.render_eq_ok.1 rendered).1, ?_⟩
  have existing : config.existingText? workspace = some artifact.source :=
    Workspace.toOption_readText_eq_some_iff.2 settled.read
  have previous : Artifact.previousStamp? (config.existingText? workspace) = some stamp := by
    rw [existing]
    exact told
  rw [artifactFor, Artifact.renderStable_of_stamp noDate previous, rendered]
  simp only [Except.bind, Artifact.isText_iff.2 existing, if_true]

/-- A run confirms a settled artifact in every mode. -/
theorem confirms_run (noDate : circumstances.sourceDate.instant? = none)
    (readable : circumstances.faults.cause? .readOld = none) (mode : RunMode) :
    config.Confirms workspace mode (config.run workspace circumstances mode) := by
  rcases settled.artifactFor_eq noDate with ⟨survey, surveyed, nonempty, made⟩
  cases mode with
  | write =>
      rcases run_write_of_unchanged surveyed nonempty made (settled.publish_eq readable) with
        ⟨sameWorkspace, report, ran, outcome⟩
      exact ⟨sameWorkspace, report, ran, outcome, nofun⟩
  | check =>
      rcases run_check_of_freshness surveyed nonempty made (settled.freshness_eq readable) with
        ⟨sameWorkspace, report, ran, outcome⟩
      exact ⟨sameWorkspace, report, ran, outcome, nofun⟩
  | dryRun =>
      rcases run_dryRun_of_artifact surveyed nonempty made with
        ⟨sameWorkspace, report, ran, outcome, rendered⟩
      exact ⟨sameWorkspace, report, ran, outcome, fun _ => ⟨_, rendered, settled.read⟩⟩

/-- However many runs follow, each of them confirms a settled artifact. -/
theorem confirms_runs {later : List (Circumstances × RunMode)}
    (noDate : ∀ run ∈ later, run.1.sourceDate.instant? = none)
    (readable : ∀ run ∈ later, run.1.faults.cause? .readOld = none) :
    List.Forall₂ (fun run result => config.Confirms workspace run.2 result) later
      (config.runs workspace later) := by
  induction later with
  | nil => exact .nil
  | cons run rest ih =>
      have confirmed := settled.confirms_run (noDate run List.mem_cons_self)
        (readable run List.mem_cons_self) run.2
      have others := ih (fun other member => noDate other (List.mem_cons_of_mem _ member))
        fun other member => readable other (List.mem_cons_of_mem _ member)
      refine .cons confirmed ?_
      rw [confirmed.unchanged]
      exact others

end IsSettled

/-- An artifact that was written, or found in place, is settled: the next survey does not see it,
and its stamp reads back. -/
theorem isSettled_of_run_write {written : Report} (plain : workspace.IsPlain)
    (accepted : config.IsAccepted workspace)
    (relative : config.outputDirectory.isAbsolute = false)
    (clockYear : circumstances.clock.HasFourDigitYear)
    (date : ∀ instant, circumstances.sourceDate.instant? = some instant →
      instant.HasFourDigitYear ∧ instant.nanoseconds = 0)
    (tells : config.DigestTells workspace circumstances)
    (truthful : circumstances.faults.cause? .readOld ≠ some .notFound)
    (ran : (config.run workspace circumstances .write).report = .ok written)
    (delivered : written.outcome ≠ .skippedEmpty) :
    ∃ artifact,
      config.IsSettled (config.run workspace circumstances .write).workspace artifact := by
  rcases run_eq_ok ran with ⟨survey, surveyed, empty | ⟨nonempty, artifact, made⟩⟩
  · rcases run_of_isEmpty surveyed empty circumstances .write with ⟨_, report, skips, skipped, _⟩
    rw [ran, Except.ok.injEq] at skips
    subst skips
    exact absurd skipped delivered
  · have read := read_of_run_write surveyed nonempty made plain.wellFormed
      (tells survey artifact surveyed made) truthful ran
    rcases run_write_eq_ok surveyed nonempty made ran with
      ⟨freshness, publication, compared, published, _, effect⟩
    -- The text tells a stamp that asks for this text, however it came to it.
    obtain ⟨stamp, told, rendered⟩ : ∃ stamp,
        Header.generatedAt? artifact.source.toList = some stamp ∧
        Artifact.render config.artifactSettings survey.aggregation stamp = .ok artifact := by
      rcases Artifact.renderStable_cases made with
        ⟨instant, fixed, rendered⟩ | ⟨_, ⟨previous, stamp, rendered, same⟩ | ⟨rendered, _⟩⟩
      · obtain ⟨year, whole⟩ := date instant fixed
        exact ⟨instant, Artifact.generatedAt?_of_render year whole rendered, rendered⟩
      · rw [same] at stamp
        exact ⟨previous, stamp, rendered⟩
      · exact ⟨_, Artifact.generatedAt?_of_render
          ((Instant.hasFourDigitYear_truncated _).2 clockYear) rfl rendered, rendered⟩
    rcases effect with ⟨_, rfl, same⟩ | ⟨_, rfl⟩
    · rw [same] at read ⊢
      exact ⟨artifact, Workspace.descends_of_publish published, read, survey, stamp, surveyed,
        told, rendered⟩
    · rcases Workspace.isWritten_of_publish plain.wellFormed
        (fun missing => absurd missing truthful) published with ⟨place, isWritten⟩
      rcases aggregation_after_write accepted relative plain isWritten surveyed with
        ⟨later, surveyedLater, sameAggregation⟩
      rw [← sameAggregation] at rendered
      exact ⟨artifact, isWritten.descends, read, later, stamp, surveyedLater, told, rendered⟩

/-- Reruns are stable. In a tree without links, once a run has written its artifact below the base
directory or has found it in place, every sequence of further runs confirms it: at any readings of
the clock, every run that writes leaves the artifact alone, every run that compares finds it up to
date, every run that only renders hands over its bytes, and nothing changes in the workspace. -/
theorem reruns_are_stable {setting : Option String} {written : Report}
    {later : List (Circumstances × RunMode)} (plain : workspace.IsPlain)
    (valid : config.validate workspace = .ok ())
    (relative : config.outputDirectory.isAbsolute = false)
    (clockYear : circumstances.clock.HasFourDigitYear)
    (fromSetting : circumstances.sourceDate = .ofVariable setting)
    (dateYear : ∀ instant, circumstances.sourceDate.instant? = some instant →
      instant.HasFourDigitYear)
    (tells : config.DigestTells workspace circumstances)
    (truthful : circumstances.faults.cause? .readOld ≠ some .notFound)
    (ran : (config.run workspace circumstances .write).report = .ok written)
    (delivered : written.outcome = .written config.outputPath ∨
      written.outcome = .unchanged config.outputPath)
    (unset : ∀ run ∈ later, run.1.sourceDate = .unset)
    (readable : ∀ run ∈ later, run.1.faults.cause? .readOld = none) :
    List.Forall₂
      (fun run result =>
        config.Confirms (config.run workspace circumstances .write).workspace run.2 result)
      later (config.runs (config.run workspace circumstances .write).workspace later) := by
  have date : ∀ instant, circumstances.sourceDate.instant? = some instant →
      instant.HasFourDigitYear ∧ instant.nanoseconds = 0 := by
    intro instant fixed
    refine ⟨dateYear instant fixed, ?_⟩
    rw [fromSetting] at fixed
    exact SourceDate.nanoseconds_of_ofVariable fixed
  have notSkipped : written.outcome ≠ .skippedEmpty := by
    rcases delivered with outcome | outcome <;> simp [outcome]
  rcases isSettled_of_run_write plain (isAccepted_of_validate valid)
    relative clockYear date tells truthful ran notSkipped with
    ⟨artifact, settled⟩
  apply settled.confirms_runs
  · intro run member
    rw [unset run member]
    rfl
  · exact readable

end Config

namespace Sample

theorem isPlain_workspace : workspace.IsPlain := by
  refine ⟨FileTree.isPlain_of_entries wellFormed_workspace.tree (by decide) ?_, rfl⟩
  simp [workspace]

theorem validate_workspace : config.validate workspace = .ok () :=
  isPrepared_workspace.1.valid

theorem isPlain_workspaceWith (text : String) : (workspaceWith text).IsPlain := by
  have named : ∀ location ∈ (workspaceWith text).tree.entries.map Prod.fst,
      ∀ name ∈ location, IsFileName name := by
    show ∀ location ∈ [["src"], ["src", "a.rs"], ["src", "generated"],
      ["src", "generated", "codec.g.rs"]], ∀ name ∈ location, IsFileName name
    decide
  refine ⟨FileTree.isPlain_of_entries (wellFormed_workspaceWith text).tree ?_ ?_, rfl⟩
  · exact fun entry member => named entry.1 (List.mem_map_of_mem member)
  · simp [workspaceWith, workspace]

/-- Two runs at later times, of which the second one writes. -/
def laterRuns : List (Circumstances × RunMode) :=
  [(circumstances.withClock ⟨7, 0⟩, .check), (circumstances.withClock ⟨86400, 5⟩, .write)]

/-- Two further runs confirm the artifact of the small workspace, and so they do where it was
written over an outdated text. -/
theorem reruns_are_stable_workspace :
    (∃ written, (config.run workspace circumstances .write).report = .ok written ∧
      written.outcome = .written config.outputPath ∧
      List.Forall₂
        (fun run result =>
          config.Confirms (config.run workspace circumstances .write).workspace run.2 result)
        laterRuns (config.runs (config.run workspace circumstances .write).workspace laterRuns)) ∧
    ∃ text ∈ outdatedTexts, ∃ written,
      (config.run (workspaceWith text) circumstances .write).report = .ok written ∧
      written.outcome = .written config.outputPath ∧
      List.Forall₂
        (fun run result => config.Confirms
          (config.run (workspaceWith text) circumstances .write).workspace run.2 result)
        laterRuns
        (config.runs (config.run (workspaceWith text) circumstances .write).workspace
          laterRuns) := by
  have unset : ∀ run ∈ laterRuns, run.1.sourceDate = .unset := by
    simp [laterRuns, circumstances, Circumstances.withClock]
  have readable : ∀ run ∈ laterRuns, run.1.faults.cause? .readOld = none := by
    simp [laterRuns, circumstances, Circumstances.withClock, Faults.never]
  have dateYear : ∀ instant, circumstances.sourceDate.instant? = some instant →
      instant.HasFourDigitYear := by
    rintro instant ⟨⟩
  constructor
  · rcases run_write with ⟨written, wrote, outcome⟩
    exact ⟨written, wrote, outcome, @Config.reruns_are_stable config workspace circumstances none
      written _ isPlain_workspace validate_workspace (by decide) (by decide) rfl dateYear
      (digestTells _) (by decide) wrote (Or.inl outcome) unset readable⟩
  · rcases exists_outdated source with ⟨text, member, differs⟩
    have outdated := isOutdated_of_mem text member
    rcases outdated.run_write differs with ⟨written, wrote, outcome⟩
    exact ⟨text, member, written, wrote, outcome, @Config.reruns_are_stable config
      (workspaceWith text) circumstances none written _ (isPlain_workspaceWith text)
      outdated.prepared.valid (by decide) (by decide) rfl dateYear
      (outdated.digestTells differs fun _ => rfl) (by decide) wrote (Or.inl outcome) unset
      readable⟩

end Sample

end Registrar
