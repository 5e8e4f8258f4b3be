import Registrar.Proofs.Artifact.Restamping
import Registrar.Proofs.Workspace.Publication

/-!
# What a run does with its artifact

A run that succeeds has found nothing to register, or has made an artifact and delivered it. What
the writing and the comparison of an artifact come to is told by one comparison of digests; as far
as these tell texts apart, it is a comparison with the text at the path.
-/

namespace Registrar

namespace Workspace

variable {workspace after : Workspace} {path : FilePath} {text : String}

theorem toOption_readText_eq_some_iff :
    (workspace.readText path).toOption = some text ↔ workspace.read path = .ok text.toUTF8 := by
  rw [readText]
  rcases workspace.read path with cause | content
  · simp [Except.toOption]
  · rcases decoded : String.fromUTF8? content with _ | found
    · simp only [decoded, Except.toOption, reduceCtorEq, false_iff, Except.ok.injEq]
      rw [← Text.fromUTF8?_eq_some_iff, decoded]
      simp
    · simp only [decoded, Except.toOption, Except.ok.injEq]
      rw [← Text.fromUTF8?_eq_some_iff, decoded]

theorem isDirectory_of_read {content : ByteArray} (seen : workspace.read path = .ok content) :
    workspace.isDirectory path = false := by
  rw [Workspace.isDirectory]
  rcases located : workspace.locate path true with cause | location
  · rfl
  · show workspace.tree.isDirectory location = false
    rw [Bool.eq_false_iff, Ne, FileTree.isDirectory_iff]
    intro isDirectory
    simp [Workspace.read, located, isDirectory] at seen

/-- Whether the digest tells a text apart from what a path leads to. -/
def DigestTells (workspace : Workspace) (path : FilePath) (text : String) : Prop :=
  ∀ content, workspace.read path = .ok content →
    Digest.ofBytes content = Digest.ofText text → content = text.toUTF8

theorem DigestTells.digest_eq_iff (tells : workspace.DigestTells path text) {content : ByteArray}
    (seen : workspace.read path = .ok content) :
    Digest.ofBytes content = Digest.ofText text ↔
      (workspace.readText path).toOption = some text := by
  rw [toOption_readText_eq_some_iff, seen, Except.ok.injEq]
  constructor
  · exact tells content seen
  · rintro rfl
    rfl

/-- Two texts of which both or none are at a path compare alike with what is there. -/
theorem freshness_congr {left right : String} (faults : Faults)
    (tellsLeft : workspace.DigestTells path left) (tellsRight : workspace.DigestTells path right)
    (same : (workspace.readText path).toOption = some left ↔
      (workspace.readText path).toOption = some right) :
    workspace.freshness faults path left = workspace.freshness faults path right := by
  rw [freshness, freshness]
  rcases faults.check .readOld with cause | _
  · cases cause <;> rfl
  · rcases seen : workspace.read path with cause | content
    · cases cause <;> rfl
    · have digests : Digest.ofBytes content = Digest.ofText left ↔
          Digest.ofBytes content = Digest.ofText right := by
        rw [tellsLeft.digest_eq_iff seen, tellsRight.digest_eq_iff seen, same]
      simp only [bind, Except.bind, digests]

/-- A text is up to date if and only if it is what the path leads to. -/
theorem freshness_ne_upToDate_iff {faults : Faults} {freshness : Freshness}
    (truthful : faults.cause? .readOld ≠ some .notFound)
    (tells : workspace.DigestTells path text)
    (compared : workspace.freshness faults path text = .ok freshness) :
    freshness ≠ .upToDate ↔ .ok text.toUTF8 ≠ workspace.read path := by
  rcases freshness_eq_ok (fun missing => absurd missing truthful) compared with
    ⟨content, seen, equal⟩ | ⟨seen, equal⟩
  · have same := tells.digest_eq_iff seen
    rw [toOption_readText_eq_some_iff, seen, Except.ok.injEq] at same
    rw [equal, seen]
    split
    · rename_i digests
      simp [same.1 digests]
    · rename_i digests
      refine ⟨fun _ found => digests (same.2 (Except.ok.inj found).symm), fun _ => nofun⟩
  · rw [equal, seen]
    simp

theorem descends_of_publish {faults : Faults} {publication : Publication}
    (published : workspace.publish faults path text = (after, .ok publication)) :
    Component.parent ∉ path.components := by
  intro upwards
  have problem : workspace.outputPathProblem? path = some .leavesDirectory := by
    rw [outputPathProblem?, if_pos (by simpa using upwards)]
  simp [publish, problem] at published

/-- Where a path may receive a text and leads to another one, the file there is replaced. -/
theorem publish_of_stale {faults : Faults} {replaced : Except FileError Unit}
    (noProblem : workspace.outputPathProblem? path = none)
    (stale : workspace.freshness faults path text = .ok .stale)
    (outcome : workspace.replaceFile faults path text = (after, replaced)) :
    workspace.publish faults path text = (after,
      match replaced with
      | .ok () => .ok .written
      | .error cause => .error (.write path cause)) := by
  rw [publish, noProblem]
  simp only [stale, outcome]
  cases replaced with
  | ok _ => rfl
  | error cause => rfl

/-- A publication that succeeds has compared its text with what was there, and it has left the
workspace alone where it found the text. -/
theorem publish_eq_ok {faults : Faults} {publication : Publication}
    (published : workspace.publish faults path text = (after, .ok publication)) :
    ∃ freshness, workspace.freshness faults path text = .ok freshness ∧
      (freshness = .upToDate ∧ publication = .unchanged ∧ after = workspace ∨
        freshness ≠ .upToDate ∧ publication = .written) := by
  rw [publish] at published
  rcases problem : workspace.outputPathProblem? path with _ | found
  · simp only [problem] at published
    rcases compared : workspace.freshness faults path text with failure | freshness
    · simp [compared] at published
    · refine ⟨freshness, rfl, ?_⟩
      rw [compared] at published
      cases freshness with
      | upToDate =>
          simp only [Prod.mk.injEq, Except.ok.injEq] at published
          exact Or.inl ⟨rfl, published.2.symm, published.1.symm⟩
      | stale =>
          refine Or.inr ⟨by simp, ?_⟩
          rcases replaced : workspace.replaceFile faults path text with ⟨final, cause | _⟩ <;>
            simp_all
      | missing =>
          refine Or.inr ⟨by simp, ?_⟩
          rcases replaced : workspace.replaceFile faults path text with ⟨final, cause | _⟩ <;>
            simp_all
  · simp [problem] at published

end Workspace

namespace Config

variable {config : Config} {workspace : Workspace} {circumstances : Circumstances}
  {mode : RunMode} {survey : Survey} {artifact : Artifact} {report : Report}

/-- A run that finds nothing to register changes nothing and makes nothing, in every mode. -/
theorem run_of_isEmpty (surveyed : config.survey workspace = .ok survey)
    (empty : survey.aggregation.isEmpty = true) (circumstances : Circumstances) (mode : RunMode) :
    (config.run workspace circumstances mode).workspace = workspace ∧
      ∃ report, (config.run workspace circumstances mode).report = .ok report ∧
        report.outcome = .skippedEmpty ∧ report.rendered = none := by
  rw [run, surveyed]
  simp only [conclude, empty, if_true, leaveEmpty]
  split
  · exact ⟨rfl, _, rfl, rfl, rfl⟩
  · exact ⟨rfl, _, rfl, rfl, rfl⟩

/-- A run that has made an artifact delivers it. -/
theorem run_of_artifact (surveyed : config.survey workspace = .ok survey)
    (nonempty : survey.aggregation.isEmpty = false)
    (made : config.artifactFor workspace circumstances survey = .ok artifact) :
    let delivered := config.deliver workspace circumstances.faults mode artifact
      { initialReport mode survey with keyCollisions := artifact.collisions }
    (config.run workspace circumstances mode).workspace = delivered.workspace ∧
      (config.run workspace circumstances mode).report = delivered.report := by
  rw [run, surveyed]
  simp only [conclude, nonempty, Bool.false_eq_true, if_false, made, and_self]

/-- A run that succeeds has surveyed its sources, and unless it found nothing to register it has
made an artifact. -/
theorem run_eq_ok (ran : (config.run workspace circumstances mode).report = .ok report) :
    ∃ survey, config.survey workspace = .ok survey ∧
      (survey.aggregation.isEmpty = true ∨ survey.aggregation.isEmpty = false ∧
        ∃ artifact, config.artifactFor workspace circumstances survey = .ok artifact) := by
  rw [run] at ran
  rcases surveyed : config.survey workspace with failure | survey
  · rw [surveyed] at ran
    cases ran
  · refine ⟨survey, rfl, ?_⟩
    cases empty : survey.aggregation.isEmpty with
    | true => exact Or.inl rfl
    | false =>
        rcases made : config.artifactFor workspace circumstances survey with failure | artifact
        · simp only [surveyed, conclude, empty, made] at ran
          cases ran
        · exact Or.inr ⟨rfl, artifact, rfl⟩

/-- A run that succeeds reports what its survey found, and adds what became of the artifact. -/
theorem report_of_run (ran : (config.run workspace circumstances mode).report = .ok report) :
    ∃ survey, config.survey workspace = .ok survey ∧
      ∃ outcome collisions leftover rendered, report = { initialReport mode survey with
        outcome, keyCollisions := collisions, leftoverArtifact := leftover, rendered } := by
  rcases run_eq_ok ran with ⟨survey, surveyed, empty | ⟨nonempty, artifact, made⟩⟩
  · refine ⟨survey, surveyed, ?_⟩
    rw [run, surveyed] at ran
    simp only [conclude, empty, if_true, leaveEmpty] at ran
    split at ran <;> (cases ran; exact ⟨_, _, _, _, rfl⟩)
  · refine ⟨survey, surveyed, ?_⟩
    rcases @run_of_artifact _ _ _ mode _ _ surveyed nonempty made with ⟨_, delivered⟩
    rw [ran] at delivered
    rcases mode with _ | _ | _
    · unfold deliver write at delivered
      dsimp only at delivered
      split at delivered <;> (cases delivered; try exact ⟨_, _, _, _, rfl⟩)
    · unfold deliver check at delivered
      dsimp only at delivered
      split at delivered <;> (cases delivered; try exact ⟨_, _, _, _, rfl⟩)
    · cases delivered
      exact ⟨_, _, _, _, rfl⟩

end Config

end Registrar
