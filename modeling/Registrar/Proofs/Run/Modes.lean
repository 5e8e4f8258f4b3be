import Registrar.Proofs.Run.Delivery

/-!
# The modes agree

A run that writes, one that compares and one that only renders start from the same workspace and
perhaps at different readings of the clock. They find the same, and the artifact of each is the text
at the path if and only if the artifact of each other one is; so what one of them does to the
artifact is what the others say about it.
-/

namespace Registrar

namespace Config

variable {config : Config} {workspace : Workspace} {circumstances : Circumstances}

/-- Whether the digest tells the artifact of a run apart from what is at its path. -/
def DigestTells (config : Config) (workspace : Workspace) (circumstances : Circumstances) : Prop :=
  ∀ survey artifact, config.survey workspace = .ok survey →
    config.artifactFor workspace circumstances survey = .ok artifact →
    workspace.DigestTells config.outputPath artifact.source

/-- What the comparison of an artifact comes to. -/
def comparisonOutcome (config : Config) : Freshness → Outcome
  | .upToDate => .upToDate config.outputPath
  | .stale => .stale config.outputPath
  | .missing => .stale config.outputPath

/-- What the writing of an artifact comes to. -/
def writingOutcome (config : Config) : Freshness → Outcome
  | .upToDate => .unchanged config.outputPath
  | .stale => .written config.outputPath
  | .missing => .written config.outputPath

variable {artifact : Artifact} {report : Report} {freshness : Freshness} {faults : Faults}

theorem check_of_freshness
    (compared : workspace.freshness faults config.outputPath artifact.source = .ok freshness) :
    (config.check workspace faults artifact report).workspace = workspace ∧
      ∃ checked, (config.check workspace faults artifact report).report = .ok checked ∧
        checked.outcome = config.comparisonOutcome freshness := by
  simp only [check, compared]
  cases freshness with
  | upToDate => exact ⟨rfl, _, rfl, rfl⟩
  | stale => exact ⟨rfl, _, rfl, rfl⟩
  | missing => exact ⟨rfl, _, rfl, rfl⟩

theorem write_of_written {after : Workspace}
    (published : workspace.publish faults config.outputPath artifact.source =
      (after, .ok .written)) :
    ∃ written, (config.write workspace faults artifact report).report = .ok written ∧
      written.outcome = .written config.outputPath := by
  unfold write
  simp only [published]
  exact ⟨_, rfl, rfl⟩

theorem write_of_unchanged
    (published : workspace.publish faults config.outputPath artifact.source =
      (workspace, .ok .unchanged)) :
    (config.write workspace faults artifact report).workspace = workspace ∧
      ∃ written, (config.write workspace faults artifact report).report = .ok written ∧
        written.outcome = .unchanged config.outputPath := by
  unfold write
  simp only [published]
  exact ⟨trivial, _, rfl, rfl⟩

/-- An artifact that was written was compared with what was at its path. -/
theorem write_eq_ok {written : Report}
    (wrote : (config.write workspace faults artifact report).report = .ok written) :
    ∃ freshness publication,
      workspace.freshness faults config.outputPath artifact.source = .ok freshness ∧
      workspace.publish faults config.outputPath artifact.source =
        ((config.write workspace faults artifact report).workspace, .ok publication) ∧
      written.outcome = config.writingOutcome freshness ∧
      (freshness = .upToDate ∧ publication = .unchanged ∧
          (config.write workspace faults artifact report).workspace = workspace ∨
        freshness ≠ .upToDate ∧ publication = .written) := by
  rcases published : workspace.publish faults config.outputPath artifact.source with
    ⟨after, failure | publication⟩
  · unfold write at wrote
    simp only [published] at wrote
    cases wrote
  · rcases Workspace.publish_eq_ok published with ⟨freshness, compared, outcome⟩
    rcases outcome with ⟨rfl, rfl, same⟩ | ⟨differs, rfl⟩
    · have result : config.write workspace faults artifact report =
          { workspace
            events := [.publicationSkipped config.outputPath, .artifactUnchanged config.outputPath]
            report := .ok { report with outcome := .unchanged config.outputPath } } := by
        unfold write
        simp only [published, same]
      rw [result] at wrote ⊢
      rcases Except.ok.inj wrote with rfl
      exact ⟨_, _, compared, by rw [same], rfl, Or.inl ⟨rfl, rfl, rfl⟩⟩
    · have result : config.write workspace faults artifact report =
          { workspace := after
            events := [.artifactWritten config.outputPath report.declarations.length]
            report := .ok { report with outcome := .written config.outputPath } } := by
        unfold write
        simp only [published]
      rw [result] at wrote ⊢
      rcases Except.ok.inj wrote with rfl
      refine ⟨_, _, compared, rfl, ?_, Or.inr ⟨differs, rfl⟩⟩
      cases freshness with
      | upToDate => exact absurd rfl differs
      | stale => rfl
      | missing => rfl

section Run

variable {survey : Survey} (surveyed : config.survey workspace = .ok survey)
  (nonempty : survey.aggregation.isEmpty = false)
  (made : config.artifactFor workspace circumstances survey = .ok artifact)

include surveyed nonempty made

/-- A run that wrote its artifact, or found it in place, has compared it with what was there. -/
theorem run_write_eq_ok {written : Report}
    (ran : (config.run workspace circumstances .write).report = .ok written) :
    ∃ freshness publication,
      workspace.freshness circumstances.faults config.outputPath artifact.source =
        .ok freshness ∧
      workspace.publish circumstances.faults config.outputPath artifact.source =
        ((config.run workspace circumstances .write).workspace, .ok publication) ∧
      written.outcome = config.writingOutcome freshness ∧
      (freshness = .upToDate ∧ publication = .unchanged ∧
          (config.run workspace circumstances .write).workspace = workspace ∨
        freshness ≠ .upToDate ∧ publication = .written) := by
  rcases @run_of_artifact _ _ _ .write _ _ surveyed nonempty made with ⟨sameWorkspace, sameReport⟩
  rw [sameWorkspace]
  exact write_eq_ok (sameReport.symm.trans ran)

theorem run_check_of_freshness
    (compared : workspace.freshness circumstances.faults config.outputPath artifact.source =
      .ok freshness) :
    (config.run workspace circumstances .check).workspace = workspace ∧
      ∃ checked, (config.run workspace circumstances .check).report = .ok checked ∧
        checked.outcome = config.comparisonOutcome freshness := by
  rcases @run_of_artifact _ _ _ .check _ _ surveyed nonempty made with ⟨sameWorkspace, sameReport⟩
  rw [sameWorkspace, sameReport]
  exact check_of_freshness compared

theorem run_write_of_written {after : Workspace}
    (published : workspace.publish circumstances.faults config.outputPath artifact.source =
      (after, .ok .written)) :
    ∃ written, (config.run workspace circumstances .write).report = .ok written ∧
      written.outcome = .written config.outputPath := by
  rcases @run_of_artifact _ _ _ .write _ _ surveyed nonempty made with ⟨_, sameReport⟩
  rw [sameReport]
  exact write_of_written published

theorem run_write_of_failed {after : Workspace} {failure : Failure}
    (published : workspace.publish circumstances.faults config.outputPath artifact.source =
      (after, .error failure)) :
    (config.run workspace circumstances .write).report = .error failure := by
  rcases @run_of_artifact _ _ _ .write _ _ surveyed nonempty made with ⟨_, sameReport⟩
  rw [sameReport]
  simp only [deliver, write, published]

theorem run_write_of_unchanged
    (published : workspace.publish circumstances.faults config.outputPath artifact.source =
      (workspace, .ok .unchanged)) :
    (config.run workspace circumstances .write).workspace = workspace ∧
      ∃ written, (config.run workspace circumstances .write).report = .ok written ∧
        written.outcome = .unchanged config.outputPath := by
  rcases @run_of_artifact _ _ _ .write _ _ surveyed nonempty made with ⟨sameWorkspace, sameReport⟩
  rw [sameWorkspace, sameReport]
  exact write_of_unchanged published

theorem run_dryRun_of_artifact :
    (config.run workspace circumstances .dryRun).workspace = workspace ∧
      ∃ shown, (config.run workspace circumstances .dryRun).report = .ok shown ∧
        shown.outcome = .rendered ∧ shown.rendered = some artifact.source := by
  rcases @run_of_artifact _ _ _ .dryRun _ _ surveyed nonempty made with ⟨sameWorkspace, sameReport⟩
  rw [sameWorkspace, sameReport]
  exact ⟨rfl, _, rfl, rfl, rfl⟩

/-- The artifact is at its path after it was written or found in place. -/
theorem read_of_run_write {written : Report} (wellFormed : workspace.WellFormed)
    (tells : workspace.DigestTells config.outputPath artifact.source)
    (truthful : circumstances.faults.cause? .readOld ≠ some .notFound)
    (ran : (config.run workspace circumstances .write).report = .ok written) :
    (config.run workspace circumstances .write).workspace.read config.outputPath =
      .ok artifact.source.toUTF8 := by
  rcases run_write_eq_ok surveyed nonempty made ran with
    ⟨freshness, publication, compared, published, _, effect⟩
  rcases effect with ⟨rfl, rfl, same⟩ | ⟨_, rfl⟩
  · rw [same]
    rcases Workspace.freshness_eq_ok (fun missing => absurd missing truthful) compared with
      ⟨content, seen, equal⟩ | ⟨_, missing⟩
    · split at equal
      · rename_i digests
        rw [seen, tells content seen digests]
      · cases equal
    · cases missing
  · rcases Workspace.isWritten_of_publish wellFormed (fun missing => absurd missing truthful)
      published with ⟨place, isWritten⟩
    exact isWritten.read

end Run

/-- The modes agree. Where a run that writes succeeds, a run that compares instead succeeds at every
reading of the clock: it finds the artifact up to date, out of date or nothing to register exactly
where the former leaves the artifact alone, writes it or finds nothing to register, and out of date
exactly where the former changes what is at the path. Readings in the same second, like a source
date, make a run that only renders hand over the text that is at the path after the writing. -/
theorem modes_agree {checkClock : Instant} {written : Report} (wellFormed : workspace.WellFormed)
    (writeYear : circumstances.clock.HasFourDigitYear) (checkYear : checkClock.HasFourDigitYear)
    (tellsWritten : config.DigestTells workspace circumstances)
    (tellsChecked : config.DigestTells workspace (circumstances.withClock checkClock))
    (truthful : circumstances.faults.cause? .readOld ≠ some .notFound)
    (wrote : (config.run workspace circumstances .write).report = .ok written) :
    (∃ checked,
      (config.run workspace (circumstances.withClock checkClock) .check).report = .ok checked ∧
      (checked.outcome = .upToDate config.outputPath ↔
        written.outcome = .unchanged config.outputPath) ∧
      (checked.outcome = .stale config.outputPath ↔
        written.outcome = .written config.outputPath) ∧
      (checked.outcome = .skippedEmpty ↔ written.outcome = .skippedEmpty) ∧
      (checked.outcome = .stale config.outputPath ↔
        (config.run workspace circumstances .write).workspace.read config.outputPath ≠
          workspace.read config.outputPath)) ∧
      (checkClock.truncated = circumstances.clock.truncated ∨
          circumstances.sourceDate.instant?.isSome = true →
        written.outcome ≠ .skippedEmpty →
        ∃ shown text,
          (config.run workspace (circumstances.withClock checkClock) .dryRun).report = .ok shown ∧
          shown.rendered = some text ∧
          (config.run workspace circumstances .write).workspace.read config.outputPath =
            .ok text.toUTF8) := by
  rcases run_eq_ok wrote with ⟨survey, surveyed, empty | ⟨nonempty, artifact, made⟩⟩
  · rcases run_of_isEmpty surveyed empty circumstances .write with
      ⟨unchanged, written, ranWrite, skipped, _⟩
    rcases run_of_isEmpty surveyed empty (circumstances.withClock checkClock) .check with
      ⟨_, checked, ranCheck, skippedCheck, _⟩
    rw [ranWrite] at wrote
    rcases Except.ok.inj wrote with rfl
    refine ⟨⟨checked, ranCheck, ?_⟩, fun _ notSkipped => absurd skipped notSkipped⟩
    simp [skipped, skippedCheck, unchanged]
  · rcases run_write_eq_ok surveyed nonempty made wrote with
      ⟨freshness, publication, compared, published, outcome, effect⟩
    rcases Artifact.exists_renderStable_eq_ok writeYear made checkClock with ⟨other, madeOther⟩
    have sameText := Artifact.isText_clock_iff writeYear checkYear made madeOther
    have tells := tellsWritten survey artifact surveyed made
    have read := read_of_run_write surveyed nonempty made wellFormed tells truthful wrote
    constructor
    · have sameFreshness := Workspace.freshness_congr circumstances.faults tells
        (tellsChecked survey other surveyed madeOther) sameText
      obtain ⟨_, checked, ranCheck, checkedOutcome⟩ :=
        run_check_of_freshness surveyed nonempty madeOther (sameFreshness.symm.trans compared)
      have changes := Workspace.freshness_ne_upToDate_iff truthful tells compared
      rw [← read] at changes
      refine ⟨checked, ranCheck, ?_⟩
      rw [outcome, checkedOutcome, ← changes]
      cases freshness with
      | upToDate => simp [comparisonOutcome, writingOutcome]
      | stale => simp [comparisonOutcome, writingOutcome]
      | missing => simp [comparisonOutcome, writingOutcome]
    · intro sameSecond _
      rcases run_dryRun_of_artifact surveyed nonempty madeOther with
        ⟨_, shown, ranShow, _, rendered⟩
      rw [Artifact.renderStable_congr_clock sameSecond] at madeOther
      have sameArtifact := made.symm.trans madeOther
      rw [Except.ok.injEq] at sameArtifact
      subst sameArtifact
      exact ⟨shown, artifact.source, ranShow, rendered, read⟩

end Config

namespace Sample

/-- A configuration whose type of maps is short. -/
def config : Config := { Config.standard with mapType := "M" }

/-- A workspace with one source file, in which one declaration qualifies. -/
def workspace : Workspace where
  tree := ⟨[(["src"], .directory),
    (["src", "a.rs"], .file (String.toUTF8 ("#[encodable]struct A;" ++
      "impl A\x7bfn to_map(&self)->HashMap\x7b\x7dfn from_map(m:HashMap)->A\x7b\x7d\x7d")))]⟩
  directory := []

/-- The start of 1970, without a source date. -/
def circumstances : Circumstances := ⟨.unset, ⟨0, 0⟩, .never⟩

/-- What is found in the workspace. -/
def aggregation : Aggregation where
  candidates := [⟨"A", "crate::a", ""⟩]
  serializer := none
  deserializer := none
  statistics := ⟨1, 0, 0, [], []⟩

/-- The text that is rendered for what is found. -/
def source : String :=
  String.ofList (ArtifactSource.text config.artifactSettings aggregation ⟨0, 0⟩)

/-- The small workspace with a file at the path of the artifact. -/
def workspaceWith (text : String) : Workspace where
  tree := ⟨workspace.tree.entries ++ [(["src", "generated"], .directory),
    (["src", "generated", "codec.g.rs"], .file text.toUTF8)]⟩
  directory := []

/-- Texts that were generated on the day before, for other findings. -/
def outdatedTexts : List String :=
  ["// @generated\n// Generated at: 1969-12-31T00:00:00Z\nfn one()\x7b\x7d",
    "// @generated\n// Generated at: 1969-12-31T00:00:00Z\nfn two()\x7b\x7d"]

/-- Whether the configuration finds in a workspace what is found, and can write its artifact. -/
structure IsPrepared (place : Workspace) : Prop where
  valid : config.validate place = .ok ()
  found : (config.survey place).toOption.map Survey.aggregation = some aggregation
  noProblem : place.outputPathProblem? config.outputPath = none
  replaced : (place.replaceFile .never config.outputPath source).2.toOption = some ()

instance (place : Workspace) : Decidable (IsPrepared place) :=
  decidable_of_iff (_ ∧ _ ∧ _ ∧ _)
    ⟨fun ⟨valid, found, noProblem, replaced⟩ => ⟨valid, found, noProblem, replaced⟩,
      fun ⟨valid, found, noProblem, replaced⟩ => ⟨valid, found, noProblem, replaced⟩⟩

/-- Whether a text is read at the path of the artifact, and is not what its own stamp asks for. -/
structure IsOutdated (text : String) : Prop where
  prepared : IsPrepared (workspaceWith text)
  read : ((workspaceWith text).readText config.outputPath).toOption = some text
  stamp : Header.generatedAt? text.toList = some ⟨-86400, 0⟩
  differs : text.toList ≠ ArtifactSource.text config.artifactSettings aggregation ⟨-86400, 0⟩

instance (text : String) : Decidable (IsOutdated text) :=
  decidable_of_iff (_ ∧ _ ∧ _ ∧ _)
    ⟨fun ⟨prepared, read, stamp, differs⟩ => ⟨prepared, read, stamp, differs⟩,
      fun ⟨prepared, read, stamp, differs⟩ => ⟨prepared, read, stamp, differs⟩⟩

/-- Nothing is at the path of the artifact in the small workspace. -/
theorem isPrepared_workspace : IsPrepared workspace ∧
    (workspace.publish .never config.outputPath source).2.toOption = some .written ∧
    (workspace.read config.outputPath).toOption = none := by
  decide +kernel

theorem isOutdated_of_mem : ∀ text ∈ outdatedTexts, IsOutdated text := by
  decide +kernel

/-- The digest of a text cannot be that of each outdated text. -/
theorem exists_outdated (text : String) :
    ∃ other ∈ outdatedTexts, Digest.ofText other ≠ Digest.ofText text := by
  have differ : ∀ other ∈ outdatedTexts.tail,
      Digest.ofText (outdatedTexts.headD "") ≠ Digest.ofText other := by
    decide +kernel
  by_cases same : Digest.ofText (outdatedTexts.headD "") = Digest.ofText text
  · exact ⟨_, List.mem_cons_of_mem _ List.mem_cons_self,
      fun also => differ _ List.mem_cons_self (same.trans also.symm)⟩
  · exact ⟨_, List.mem_cons_self, same⟩

theorem isSource_source : (Source.items? source.toList).isSome = true := by
  rw [source, String.toList_ofList]
  decide +kernel

/-- Nothing is at the path of the artifact. -/
theorem read_outputPath : (workspace.read config.outputPath).toOption = none :=
  isPrepared_workspace.2.2

theorem wellFormed_workspace : workspace.WellFormed := by
  refine ⟨⟨by decide, ?_⟩, rfl⟩
  simp [workspace, FileTree.entry?]

/-- What is found can be rendered. -/
theorem render_aggregation : Artifact.render config.artifactSettings aggregation ⟨0, 0⟩ =
    .ok ⟨source, Candidate.collisions (Candidate.sorted aggregation.candidates)⟩ := by
  have isSource := isSource_source
  rw [source, String.toList_ofList] at isSource
  exact Artifact.render_eq_ok.2 ⟨rfl, isSource, rfl⟩

/-- A survey whose findings are known is made. -/
theorem exists_survey_of_aggregation {other : Config} {place : Workspace} {held : Aggregation}
    (found : (other.survey place).toOption.map Survey.aggregation = some held) :
    ∃ survey, other.survey place = .ok survey ∧ survey.aggregation = held := by
  rcases Option.map_eq_some_iff.1 found with ⟨survey, surveyed, same⟩
  exact ⟨survey, Workspace.toOption_eq_some_iff.1 surveyed, same⟩

theorem exists_survey :
    ∃ survey, config.survey workspace = .ok survey ∧ survey.aggregation = aggregation :=
  exists_survey_of_aggregation isPrepared_workspace.1.found

theorem digestTells (circumstances : Circumstances) :
    config.DigestTells workspace circumstances := by
  intro survey artifact _ _ content seen
  have missing := read_outputPath
  rw [seen] at missing
  cases missing

/-- What is found is rendered where nothing is at the path of the artifact. -/
theorem exists_artifactFor_of_aggregation {other : Config} {place : Workspace}
    (found : (other.survey place).toOption.map Survey.aggregation = some aggregation)
    (sameSettings : other.artifactSettings = config.artifactSettings)
    (missing : (place.read other.outputPath).toOption = none) :
    ∃ survey, other.survey place = .ok survey ∧ survey.aggregation = aggregation ∧
      other.artifactFor place circumstances survey =
        .ok ⟨source, Candidate.collisions (Candidate.sorted aggregation.candidates)⟩ := by
  rcases exists_survey_of_aggregation found with ⟨survey, surveyed, same⟩
  refine ⟨survey, surveyed, same, ?_⟩
  have noText : other.existingText? place = none := by
    rcases seen : place.read other.outputPath with cause | content
    · rw [Config.existingText?, Workspace.readText, seen]
      rfl
    · rw [seen] at missing
      cases missing
  rw [Config.artifactFor, noText, same, sameSettings, Artifact.renderStable_of_no_stamp rfl rfl]
  exact render_aggregation

theorem exists_artifactFor :
    ∃ survey, config.survey workspace = .ok survey ∧ survey.aggregation = aggregation ∧
      config.artifactFor workspace circumstances survey =
        .ok ⟨source, Candidate.collisions (Candidate.sorted aggregation.candidates)⟩ :=
  exists_artifactFor_of_aggregation isPrepared_workspace.1.found rfl read_outputPath

/-- A run that makes the artifact and whose publication writes it succeeds. -/
theorem run_write_of_publish {place : Workspace} {survey : Survey} {collisions : List KeyCollision}
    (surveyed : config.survey place = .ok survey) (found : survey.aggregation = aggregation)
    (made : config.artifactFor place circumstances survey = .ok ⟨source, collisions⟩)
    (published : (place.publish .never config.outputPath source).2.toOption = some .written) :
    ∃ written, (config.run place circumstances .write).report = .ok written ∧
      written.outcome = .written config.outputPath := by
  have nonempty : survey.aggregation.isEmpty = false := by
    rw [found]
    rfl
  rcases outcome : place.publish .never config.outputPath source with ⟨after, publication⟩
  rw [outcome] at published
  rcases Workspace.toOption_eq_some_iff.1 published with rfl
  exact Config.run_write_of_written surveyed nonempty made outcome

/-- The run that writes succeeds and writes its artifact. -/
theorem run_write : ∃ written, (config.run workspace circumstances .write).report = .ok written ∧
    written.outcome = .written config.outputPath := by
  rcases exists_artifactFor with ⟨survey, surveyed, found, made⟩
  exact run_write_of_publish surveyed found made isPrepared_workspace.2.1

theorem wellFormed_workspaceWith (text : String) : (workspaceWith text).WellFormed := by
  refine ⟨⟨by simp [workspaceWith, workspace], ?_⟩, rfl⟩
  simp [workspaceWith, workspace, FileTree.entry?, List.lookup_cons]

namespace IsOutdated

variable {text : String} (outdated : IsOutdated text)

include outdated

theorem read_eq : (workspaceWith text).read config.outputPath = .ok text.toUTF8 :=
  Workspace.toOption_readText_eq_some_iff.1 outdated.read

/-- An outdated text is not what its stamp asks for. -/
theorem ne_source {previous : Instant} {again : Artifact}
    (stamp : Header.generatedAt? text.toList = some previous)
    (rendered : Artifact.render config.artifactSettings aggregation previous = .ok again) :
    text ≠ again.source := by
  rw [outdated.stamp, Option.some.injEq] at stamp
  subst stamp
  rcases Artifact.render_eq_ok.1 rendered with ⟨_, _, rfl⟩
  intro same
  apply outdated.differs
  rw [same, String.toList_ofList]

/-- Where an outdated text is at the path of the artifact, the clock decides. -/
theorem exists_artifactFor :
    ∃ survey, config.survey (workspaceWith text) = .ok survey ∧
      survey.aggregation = aggregation ∧
      config.artifactFor (workspaceWith text) circumstances survey =
        .ok ⟨source, Candidate.collisions (Candidate.sorted aggregation.candidates)⟩ := by
  rcases exists_survey_of_aggregation outdated.prepared.found with ⟨survey, surveyed, found⟩
  refine ⟨survey, surveyed, found, ?_⟩
  have existing : config.existingText? (workspaceWith text) = some text := outdated.read
  rw [Config.artifactFor, found, existing]
  refine (Artifact.renderStable_of_not_rendered rfl (by decide) ?_).trans render_aggregation
  intro previous again stamp rendered same
  exact outdated.ne_source stamp rendered (Option.some.inj same)

variable (differs : Digest.ofText text ≠ Digest.ofText source)

include differs

/-- An outdated text with another digest than the artifact is seen to be stale. -/
theorem freshness_eq {faults : Faults} (readable : faults.cause? .readOld = none) :
    (workspaceWith text).freshness faults config.outputPath source = .ok .stale := by
  have seen := outdated.read_eq
  have digests : ¬Digest.ofBytes text.toUTF8 = Digest.ofText source := differs
  simp only [Workspace.freshness, Faults.check, readable, seen, bind, Except.bind, digests,
    if_false]

theorem publish_eq :
    ((workspaceWith text).publish .never config.outputPath source).2.toOption =
      some .written := by
  have replaced := outdated.prepared.replaced
  rcases outcome : (workspaceWith text).replaceFile .never config.outputPath source with
    ⟨after, result⟩
  rw [outcome] at replaced
  rcases Workspace.toOption_eq_some_iff.1 replaced with rfl
  rw [Workspace.publish_of_stale outdated.prepared.noProblem (outdated.freshness_eq differs rfl)
    outcome]
  rfl

/-- An outdated text with another digest than the artifact is written over. -/
theorem run_write :
    ∃ written, (config.run (workspaceWith text) circumstances .write).report = .ok written ∧
      written.outcome = .written config.outputPath := by
  rcases outdated.exists_artifactFor with ⟨survey, surveyed, found, made⟩
  exact run_write_of_publish surveyed found made (outdated.publish_eq differs)

theorem digestTells {others : Circumstances}
    (sameArtifact : ∀ survey, config.artifactFor (workspaceWith text) others survey =
      config.artifactFor (workspaceWith text) circumstances survey) :
    config.DigestTells (workspaceWith text) others := by
  intro survey artifact surveyed made content seen digests
  rcases outdated.exists_artifactFor with ⟨other, surveyedOther, _, madeOther⟩
  rcases Except.ok.inj (surveyed.symm.trans surveyedOther) with rfl
  rcases Except.ok.inj ((made.symm.trans (sameArtifact survey)).trans madeOther) with rfl
  rw [outdated.read_eq, Except.ok.injEq] at seen
  rw [← seen] at digests
  exact absurd digests differs

end IsOutdated

end Sample

/-- The modes agree on the small workspace, and so they do at another time of the same second where
an outdated text is at the path of the artifact. -/
theorem Sample.modes_agree_workspace :
    (∃ written, (config.run workspace circumstances .write).report = .ok written ∧
      written.outcome = .written config.outputPath ∧
      ∃ checked, (config.run workspace (circumstances.withClock ⟨86400, 5⟩) .check).report =
          .ok checked ∧
        checked.outcome = .stale config.outputPath) ∧
    ∃ text ∈ outdatedTexts, ∃ written,
      (config.run (workspaceWith text) circumstances .write).report = .ok written ∧
      written.outcome = .written config.outputPath ∧
      (∃ checked, (config.run (workspaceWith text) (circumstances.withClock ⟨0, 5⟩) .check).report =
          .ok checked ∧
        checked.outcome = .stale config.outputPath) ∧
      ∃ shown again,
        (config.run (workspaceWith text) (circumstances.withClock ⟨0, 5⟩) .dryRun).report =
          .ok shown ∧
        shown.rendered = some again ∧
        (config.run (workspaceWith text) circumstances .write).workspace.read config.outputPath =
          .ok again.toUTF8 := by
  constructor
  · rcases run_write with ⟨written, wrote, outcome⟩
    obtain ⟨⟨checked, ranCheck, _, stale, _⟩, _⟩ :=
      @Config.modes_agree config workspace circumstances ⟨86400, 5⟩ written wellFormed_workspace
        (by decide) (by decide) (digestTells _) (digestTells _) (by decide) wrote
    exact ⟨written, wrote, outcome, checked, ranCheck, stale.2 outcome⟩
  · rcases exists_outdated source with ⟨text, member, differs⟩
    have outdated := isOutdated_of_mem text member
    rcases outdated.run_write differs with ⟨written, wrote, outcome⟩
    have sameSecond : ∀ survey,
        config.artifactFor (workspaceWith text) (circumstances.withClock ⟨0, 5⟩) survey =
          config.artifactFor (workspaceWith text) circumstances survey :=
      fun _ => Artifact.renderStable_congr_clock (Or.inl rfl)
    obtain ⟨⟨checked, ranCheck, _, stale, _⟩, shows⟩ :=
      @Config.modes_agree config (workspaceWith text) circumstances ⟨0, 5⟩ written
        (wellFormed_workspaceWith text) (by decide) (by decide)
        (outdated.digestTells differs fun _ => rfl)
        (outdated.digestTells differs sameSecond) (by decide) wrote
    exact ⟨text, member, written, wrote, outcome, ⟨checked, ranCheck, stale.2 outcome⟩,
      shows (Or.inl rfl) (by simp [outcome])⟩

end Registrar
