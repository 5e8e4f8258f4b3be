import Registrar.Config.CommandLine
import Registrar.Config.File
import Registrar.Proofs.Config
import Registrar.Proofs.Run.Modes

/-!
# Where the artifact may go

A configuration that is accepted is one that a run can start with. Nothing about its artifact is
refused when it is written but a path that leads upwards: an accepted configuration may name such an
output directory, or a base directory from which a relative output directory leads, and a run that
has an artifact to write to it fails.
-/

namespace Registrar

namespace FilePath

/-- Whether a path leads upwards does not depend on what stands before it. -/
theorem parent_mem_innerComponents {path : FilePath} :
    .parent ∈ path.innerComponents ↔ .parent ∈ path.components := by
  rw [innerComponents_eq_filter, List.mem_filter]
  exact and_iff_left rfl

/-- A joined path leads upwards if its end does, or its beginning does and is kept. -/
theorem parent_mem_join_iff {base path : FilePath} (nonempty : base.text ≠ "") :
    .parent ∈ (base.join path).components ↔
      .parent ∈ path.components ∨ path.isAbsolute = false ∧ .parent ∈ base.components := by
  cases absolute : path.isAbsolute with
  | true => simp [join, absolute]
  | false =>
      rw [components_join nonempty absolute, List.mem_append, parent_mem_innerComponents, or_comm]
      simp

theorem text_ne_empty_of_isAbsolute {path : FilePath} (absolute : path.isAbsolute = true) :
    path.text ≠ "" := by
  intro empty
  simp [isAbsolute, empty] at absolute

end FilePath

namespace Artifact

variable {settings : ArtifactSettings} {aggregation : Aggregation} {failure : Failure}

theorem category_of_render {instant : Instant}
    (failed : render settings aggregation instant = .error failure) :
    failure.category = .render := by
  rw [render] at failed
  dsimp only at failed
  split at failed
  · rcases Except.error.inj failed with rfl
    rfl
  · split at failed
    · cases failed
    · rcases Except.error.inj failed with rfl
      rfl

/-- Whatever decides on the stamp, an artifact that cannot be made is a failure to render it. -/
theorem category_of_renderStable {circumstances : Circumstances} {existing : Option String}
    (failed : renderStable settings aggregation circumstances existing = .error failure) :
    failure.category = .render := by
  rcases date : circumstances.sourceDate.instant? with _ | instant
  · rcases stamp : previousStamp? existing with _ | previous
    · rw [renderStable_of_no_stamp date stamp] at failed
      exact category_of_render failed
    · rw [renderStable_of_stamp date stamp] at failed
      rcases first : render settings aggregation previous with problem | again
      · rw [first] at failed
        rcases Except.error.inj failed with rfl
        exact category_of_render first
      · simp only [first, Except.bind] at failed
        split at failed
        · cases failed
        · exact category_of_render failed
  · rw [renderStable_of_date date] at failed
    exact category_of_render failed

end Artifact

namespace Workspace

variable {workspace after : Workspace} {faults : Faults} {path : FilePath} {text : String}
  {failure : Failure}

theorem category_of_freshness (failed : workspace.freshness faults path text = .error failure) :
    failure.category = .io := by
  rw [freshness] at failed
  split at failed
  · cases failed
  · cases failed
  · rcases Except.error.inj failed with rfl
    rfl

/-- A publication fails because its path is refused, or because the file system gets in the way. -/
theorem publish_eq_error (failed : workspace.publish faults path text = (after, .error failure)) :
    (∃ problem, workspace.outputPathProblem? path = some problem ∧
      failure = .outputPath path problem) ∨ failure.category = .io := by
  rw [publish] at failed
  rcases refused : workspace.outputPathProblem? path with _ | problem
  · right
    rcases compared : workspace.freshness faults path text with cause | freshness
    · simp only [refused, compared, Prod.mk.injEq, Except.error.injEq] at failed
      rw [← failed.2]
      exact category_of_freshness compared
    · rcases replaced : workspace.replaceFile faults path text with ⟨final, cause | _⟩
      · cases freshness <;> simp [refused, compared, replaced] at failed
        · rw [← failed.2]
          rfl
        · rw [← failed.2]
          rfl
      · cases freshness <;> simp [refused, compared, replaced] at failed
  · simp only [refused, Prod.mk.injEq, Except.error.injEq] at failed
    exact Or.inl ⟨problem, rfl, failed.2.symm⟩

theorem publish_of_parent (upwards : .parent ∈ path.components) :
    workspace.publish faults path text =
      (workspace, .error (.outputPath path .leavesDirectory)) := by
  have refused : workspace.outputPathProblem? path = some .leavesDirectory := by
    rw [outputPathProblem?, if_pos (by simpa using upwards)]
  rw [publish, refused]

end Workspace

namespace Config

variable {config : Config} {workspace : Workspace} {circumstances : Circumstances}
  {failure : Failure}

/-- Whether the path of the artifact leads upwards, as its directory or the one before it does. -/
def LeadsUpwards (config : Config) : Prop :=
  .parent ∈ config.outputDirectory.components ∨
    config.outputDirectory.isAbsolute = false ∧ .parent ∈ config.baseDirectory.components

instance (config : Config) : Decidable config.LeadsUpwards :=
  inferInstanceAs (Decidable (_ ∨ _ ∧ _))

/-- Whether a run has an artifact to deliver. -/
def HasArtifact (config : Config) (workspace : Workspace) (circumstances : Circumstances) : Prop :=
  ∃ survey artifact, config.survey workspace = .ok survey ∧
    survey.aggregation.isEmpty = false ∧
      config.artifactFor workspace circumstances survey = .ok artifact

theorem IsAccepted.parent_mem_outputPath_iff (accepted : config.IsAccepted workspace) :
    .parent ∈ config.outputPath.components ↔ config.LeadsUpwards := by
  have baseNonempty := accepted.baseDirectory_nonempty
  have named := accepted.isSegmentName_outputFile
  have directoryNonempty : config.outputDirectoryPath.text ≠ "" := by
    rw [outputDirectoryPath, resolve]
    cases absolute : config.outputDirectory.isAbsolute with
    | true =>
        rw [FilePath.join, if_pos absolute]
        exact FilePath.text_ne_empty_of_isAbsolute absolute
    | false => exact FilePath.text_join_ne_empty baseNonempty absolute
  have fileStays : .parent ∉ (FilePath.mk config.outputFile).components := by
    rw [← FilePath.parent_mem_innerComponents, named.innerComponents]
    simp
  rw [outputPath, FilePath.parent_mem_join_iff directoryNonempty, outputDirectoryPath, resolve,
    FilePath.parent_mem_join_iff baseNonempty, LeadsUpwards]
  simp [fileStays, named.isAbsolute_eq_false]

theorem IsAccepted.category_of_survey (accepted : config.IsAccepted workspace)
    (failed : config.survey workspace = .error failure) : failure.category = .discovery := by
  rcases accepted.exists_selector with ⟨selector, selects⟩
  rcases walked : workspace.visits config.baseDirectory with cause | visits
  · simp only [survey, selects, walked, Except.mapError, bind, Except.bind] at failed
    rcases Except.error.inj failed with rfl
    rfl
  · simp only [survey, selects, walked, Except.mapError, bind, Except.bind, pure, Except.pure]
      at failed
    cases failed

theorem write_eq_error {faults : Faults} {artifact : Artifact} {report : Report}
    (failed : (config.write workspace faults artifact report).report = .error failure) :
    ∃ after, workspace.publish faults config.outputPath artifact.source =
      (after, .error failure) := by
  rcases published : workspace.publish faults config.outputPath artifact.source with
    ⟨after, problem | publication⟩
  · unfold write at failed
    simp only [published, Except.error.injEq] at failed
    exact ⟨after, by rw [failed]⟩
  · unfold write at failed
    cases publication <;> simp [published] at failed

/-- The stages at which a run that writes can fail. -/
theorem run_write_eq_error
    (failed : (config.run workspace circumstances .write).report = .error failure) :
    config.survey workspace = .error failure ∨
      ∃ survey, config.survey workspace = .ok survey ∧
        survey.aggregation.isEmpty = false ∧
        (config.artifactFor workspace circumstances survey = .error failure ∨
          ∃ artifact after, config.artifactFor workspace circumstances survey = .ok artifact ∧
            workspace.publish circumstances.faults config.outputPath artifact.source =
              (after, .error failure)) := by
  rcases surveyed : config.survey workspace with problem | survey
  · simp only [run, surveyed, Except.error.injEq] at failed
    exact Or.inl (by rw [failed])
  · cases empty : survey.aggregation.isEmpty with
    | true =>
        rcases run_of_isEmpty surveyed empty circumstances .write with ⟨_, report, ran, _⟩
        rw [ran] at failed
        cases failed
    | false =>
        refine Or.inr ⟨survey, rfl, empty, ?_⟩
        rcases made : config.artifactFor workspace circumstances survey with problem | artifact
        · simp only [run, surveyed, conclude, empty, made, Bool.false_eq_true, if_false,
            Except.error.injEq] at failed
          exact Or.inl (by rw [failed])
        · rcases @run_of_artifact _ _ _ .write _ _ surveyed empty made with ⟨_, sameReport⟩
          rw [sameReport] at failed
          rcases write_eq_error failed with ⟨after, published⟩
          exact Or.inr ⟨artifact, after, rfl, published⟩

/-- A run with an artifact for a path that leads upwards fails. -/
theorem run_write_of_parent (upwards : .parent ∈ config.outputPath.components)
    (hasArtifact : config.HasArtifact workspace circumstances) :
    (config.run workspace circumstances .write).report =
      .error (.outputPath config.outputPath .leavesDirectory) := by
  rcases hasArtifact with ⟨survey, artifact, surveyed, nonempty, made⟩
  exact run_write_of_failed surveyed nonempty made (Workspace.publish_of_parent upwards)

/-- An accepted configuration is one that a run can start with. Where its artifact has no directory
in its way, a run that writes fails by its configuration if and only if it has an artifact for a
path that leads upwards, and then for this reason. -/
theorem write_is_misconfigured_iff (valid : config.validate workspace = .ok ())
    (notDirectory : workspace.isDirectory config.outputPath = false)
    (circumstances : Circumstances) :
    (∃ selector, config.selector = .ok selector) ∧
      ∀ failure, (config.run workspace circumstances .write).report = .error failure ∧
          failure.category = .config ↔
        failure = .outputPath config.outputPath .leavesDirectory ∧ config.LeadsUpwards ∧
          config.HasArtifact workspace circumstances := by
  have accepted := isAccepted_of_validate valid
  refine ⟨accepted.exists_selector, fun failure => ⟨?_, ?_⟩⟩
  · rintro ⟨failed, isConfig⟩
    have notOther : ∀ category, failure.category = category → category = .config := by
      rintro category rfl
      exact isConfig
    rcases run_write_eq_error failed with
      notSurveyed | ⟨survey, surveyed, nonempty, notMade | ⟨artifact, after, made, published⟩⟩
    · exact absurd (notOther _ (accepted.category_of_survey notSurveyed)) (by simp)
    · exact absurd (notOther _ (Artifact.category_of_renderStable notMade)) (by simp)
    · rcases Workspace.publish_eq_error published with ⟨problem, refused, rfl⟩ | isIo
      · rw [Workspace.outputPathProblem?, notDirectory] at refused
        split at refused
        · rename_i upwards
          rcases Option.some.inj refused with rfl
          exact ⟨rfl, accepted.parent_mem_outputPath_iff.1 (by simpa using upwards),
            survey, artifact, surveyed, nonempty, made⟩
        · cases refused
      · exact absurd (notOther _ isIo) (by simp)
  · rintro ⟨rfl, upwards, hasArtifact⟩
    exact ⟨run_write_of_parent (accepted.parent_mem_outputPath_iff.2 upwards) hasArtifact, rfl⟩

end Config

namespace Sample

/-- The small workspace with a configuration file that names its base directory from its own. -/
def anchoredWorkspace : Workspace where
  tree := ⟨workspace.tree.entries ++ [([".config"], .directory),
    ([".config", "codec.json"], .file (String.toUTF8 "\x7b\"base_dir\":\"..\"\x7d"))]⟩
  directory := []

/-- The small configuration with the base directory that the file names. -/
def anchoredConfig : Config := { config with baseDirectory := ⟨".config/.."⟩ }

/-- The configuration is accepted, and nothing is at the path of the artifact that it finds. -/
theorem isAccepted_anchored : anchoredConfig.validate anchoredWorkspace = .ok () ∧
    anchoredWorkspace.isDirectory anchoredConfig.outputPath = false ∧
    (anchoredConfig.survey anchoredWorkspace).toOption.map Survey.aggregation =
      some aggregation ∧
    (anchoredWorkspace.read anchoredConfig.outputPath).toOption = none := by
  decide +kernel

theorem hasArtifact_anchored : anchoredConfig.HasArtifact anchoredWorkspace circumstances := by
  rcases isAccepted_anchored with ⟨_, _, found, missing⟩
  rcases exists_artifactFor_of_aggregation found rfl missing with
    ⟨survey, surveyed, same, made⟩
  exact ⟨survey, _, surveyed, by rw [same]; rfl, made⟩

/-- A run can start with a base directory that is named from another directory, but not write. -/
theorem write_is_misconfigured_anchored :
    (∃ selector, anchoredConfig.selector = .ok selector) ∧
      (anchoredConfig.run anchoredWorkspace circumstances .write).report =
        .error (.outputPath ⟨".config/../src/generated/codec.g.rs"⟩ .leavesDirectory) := by
  rcases isAccepted_anchored with ⟨valid, notDirectory, _⟩
  rcases Config.write_is_misconfigured_iff valid notDirectory circumstances with
    ⟨selects, misconfigured⟩
  exact ⟨selects, ((misconfigured _).2 ⟨by decide, by decide, hasArtifact_anchored⟩).1⟩

/-- Options may make a configuration that is accepted, with no directory at the path of its
artifact, and with which a run that writes fails by its configuration. -/
theorem accepted_options_misconfigured :
    ∃ options, CommandLine.parse ["--config", ".config/codec.json", "--map-type", "M"] ⟨[]⟩ =
        .ok options ∧
      Config.ofOptions anchoredWorkspace options = .ok anchoredConfig ∧
      anchoredConfig.validate anchoredWorkspace = .ok () ∧
      anchoredWorkspace.isDirectory anchoredConfig.outputPath = false ∧
      ∃ failure, (anchoredConfig.run anchoredWorkspace circumstances .write).report =
        .error failure ∧ failure.category = .config := by
  rcases isAccepted_anchored with ⟨valid, notDirectory, _⟩
  refine ⟨{ CommandOptions.empty with
    configFile := some ⟨".config/codec.json"⟩
    mapType := some "M" }, by decide +kernel, by decide +kernel, valid, notDirectory, _,
    Config.run_write_of_parent (by decide) hasArtifact_anchored, rfl⟩

end Sample

end Registrar
