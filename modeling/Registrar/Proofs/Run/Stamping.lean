import Registrar.Proofs.Run.Modes

/-!
# The stamp moves exactly when the body does

Unless a source date fixes its stamp, an artifact keeps the stamp of the text at its path if and
only if that text is the artifact with this very stamp. It does not matter how the text came about:
it may have been edited, tell no instant or several ones, or tell one with an offset or a fraction.
-/

namespace Registrar

/-- Whether two texts are the same but for their second lines. -/
def Text.AgreeBeyondSecondLine (left right : List Char) : Prop :=
  ∃ first leftSecond rightSecond rest, '\n' ∉ first ∧ '\n' ∉ leftSecond ∧ '\n' ∉ rightSecond ∧
    left = first ++ '\n' :: (leftSecond ++ '\n' :: rest) ∧
    right = first ++ '\n' :: (rightSecond ++ '\n' :: rest)

namespace SourceDate

/-- Whether the variable for the source date is set to an integer that tells an instant. -/
def Fixes (setting : Option String) (instant : Instant) : Prop :=
  ∃ value seconds, setting = some value ∧
    number? (Text.trimBlanks value.toList) = some seconds ∧
    Instant.ofSeconds? seconds = some instant

theorem instant?_ofVariable_eq_some_iff {setting : Option String} {instant : Instant} :
    (ofVariable setting).instant? = some instant ↔ Fixes setting instant := by
  constructor
  · intro fixed
    cases setting with
    | none => cases fixed
    | some value =>
        rw [ofVariable, ofText] at fixed
        split at fixed
        · cases fixed
        · rename_i seconds isNumber
          split at fixed
          · rename_i found isInstant
            rcases Option.some.inj fixed with rfl
            exact ⟨value, seconds, rfl, isNumber, isInstant⟩
          · cases fixed
  · rintro ⟨value, seconds, rfl, isNumber, isInstant⟩
    rw [ofVariable, ofText, isNumber]
    simp only [isInstant, instant?]

end SourceDate

namespace Artifact

variable {settings : ArtifactSettings} {aggregation : Aggregation} {circumstances : Circumstances}
  {existing : Option String} {artifact other : Artifact} {instant : Instant}

/-- A text that was rendered for the same findings is found again. -/
theorem renderStable_of_render (noDate : circumstances.sourceDate.instant? = none)
    (year : instant.HasFourDigitYear) (whole : instant.nanoseconds = 0)
    (rendered : render settings aggregation instant = .ok artifact)
    (same : existing = some artifact.source) :
    renderStable settings aggregation circumstances existing = .ok artifact := by
  have stamp : previousStamp? existing = some instant := by
    rw [same]
    exact generatedAt?_of_render year whole rendered
  rw [renderStable_of_stamp noDate stamp, rendered]
  simp only [Except.bind, isText_iff.2 same, if_true]

/-- Two texts for the same findings differ at most in their stamps. -/
theorem agreeBeyondSecondLine_text (settings : ArtifactSettings) (aggregation : Aggregation)
    (left right : Instant) :
    Text.AgreeBeyondSecondLine (ArtifactSource.text settings aggregation left)
      (ArtifactSource.text settings aggregation right) := by
  have stampLine : ∀ instant : Instant, '\n' ∉ Header.stampStart ++ instant.stamp := by
    intro instant member
    rcases List.mem_append.1 member with inStart | inStamp
    · exact (ArtifactSource.stampStart_plain _ inStart).1 rfl
    · exact (Instant.ne_lineBreak_of_mem_stamp inStamp).1 rfl
  have lines : ∀ instant : Instant, ArtifactSource.text settings aggregation instant =
      ArtifactSource.markerText ++ '\n' :: ((Header.stampStart ++ instant.stamp) ++
        '\n' :: ArtifactSource.body settings aggregation) := by
    intro instant
    simp [ArtifactSource.text, ArtifactSource.stampLine_eq, ArtifactSource.markerLine_eq]
  exact ⟨_, _, _, _, fun member => (ArtifactSource.markerText_plain _ member).1 rfl,
    stampLine left, stampLine right, lines left, lines right⟩

theorem agreeBeyondSecondLine_of_renderStable {others : Circumstances}
    {otherExisting : Option String}
    (rendered : renderStable settings aggregation circumstances existing = .ok artifact)
    (renderedOther : renderStable settings aggregation others otherExisting = .ok other) :
    Text.AgreeBeyondSecondLine artifact.source.toList other.source.toList ∧
      artifact.collisions = other.collisions := by
  rcases exists_render_of_renderStable rendered with ⟨left, renderedLeft⟩
  rcases exists_render_of_renderStable renderedOther with ⟨right, renderedRight⟩
  rcases render_eq_ok.1 renderedLeft with ⟨_, _, rfl⟩
  rcases render_eq_ok.1 renderedRight with ⟨_, _, rfl⟩
  rw [String.toList_ofList, String.toList_ofList]
  exact ⟨agreeBeyondSecondLine_text settings aggregation left right, rfl⟩

/-- The stamp moves exactly when the body does. Unless the variable for the source date fixes an
instant, a file at the path that was rendered for the same findings, at any whole second in a year
of four digits, is the artifact. Where the file is missing, is no text or is not what is rendered
with the instant that its own header tells, the artifact is what is rendered at the second of the
clock, and not what the file holds. An instant that is fixed decides whatever the file holds and the
clock reads. Whatever decides, two artifacts for the same findings differ at most in the second
line. -/
theorem stamp_moves_with_body {workspace : Workspace} {path : FilePath} {setting : Option String}
    (year : circumstances.clock.HasFourDigitYear)
    (date : circumstances.sourceDate = .ofVariable setting) :
    let outcome := renderStable settings aggregation circumstances
      (workspace.readText path).toOption
    ((∀ instant, ¬SourceDate.Fixes setting instant) →
      (∀ instant artifact, instant.HasFourDigitYear → instant.nanoseconds = 0 →
        render settings aggregation instant = .ok artifact →
        workspace.read path = .ok artifact.source.toUTF8 → outcome = .ok artifact) ∧
      ((¬∃ text previous artifact, workspace.read path = .ok text.toUTF8 ∧
          Header.generatedAt? text.toList = some previous ∧
          render settings aggregation previous = .ok artifact ∧ artifact.source = text) →
        outcome = render settings aggregation circumstances.clock.truncated ∧
        ∀ artifact, outcome = .ok artifact →
          workspace.read path ≠ .ok artifact.source.toUTF8)) ∧
    (∀ instant, SourceDate.Fixes setting instant →
      outcome = render settings aggregation instant) ∧
    ∀ others otherExisting artifact other, outcome = .ok artifact →
      renderStable settings aggregation others otherExisting = .ok other →
      Text.AgreeBeyondSecondLine artifact.source.toList other.source.toList ∧
        artifact.collisions = other.collisions := by
  intro outcome
  have noDate : (∀ instant, ¬SourceDate.Fixes setting instant) →
      circumstances.sourceDate.instant? = none := by
    intro notFixed
    rw [Option.eq_none_iff_forall_ne_some, date]
    exact fun instant fixed =>
      notFixed instant (SourceDate.instant?_ofVariable_eq_some_iff.1 fixed)
  refine ⟨fun notFixed => ⟨?_, ?_⟩, ?_, ?_⟩
  · intro instant artifact instantYear whole rendered read
    exact renderStable_of_render (noDate notFixed) instantYear whole rendered
      (Workspace.toOption_readText_eq_some_iff.2 read)
  · intro stale
    have clockDecides : outcome =
        render settings aggregation circumstances.clock.truncated := by
      apply renderStable_of_not_rendered (noDate notFixed) year
      intro previous again stamp rendered same
      rw [same] at stamp
      exact stale ⟨again.source, previous, again,
        Workspace.toOption_readText_eq_some_iff.1 same, stamp, rendered, rfl⟩
    refine ⟨clockDecides, fun artifact made read => ?_⟩
    have rendered := clockDecides.symm.trans made
    have told := generatedAt?_of_render ((Instant.hasFourDigitYear_truncated _).2 year) rfl rendered
    exact stale ⟨artifact.source, _, artifact, read, told, rendered, rfl⟩
  · intro instant fixes
    apply renderStable_of_date
    rw [date]
    exact SourceDate.instant?_ofVariable_eq_some_iff.2 fixes
  · intro others otherExisting artifact other rendered renderedOther
    exact agreeBeyondSecondLine_of_renderStable rendered renderedOther

end Artifact

namespace Sample

/-- Where the artifact is at its path, it is read there. -/
theorem read_workspaceWith_source :
    (workspaceWith source).read config.outputPath = .ok source.toUTF8 := by
  have located : (workspaceWith source).locate config.outputPath true =
      .ok ["src", "generated", "codec.g.rs"] := by
    decide
  exact Workspace.read_eq_ok_iff.2 ⟨_, located, rfl⟩

theorem IsOutdated.not_genuine {text : String} (outdated : IsOutdated text) :
    ¬∃ found previous artifact,
      (workspaceWith text).read config.outputPath = .ok (String.toUTF8 found) ∧
      Header.generatedAt? found.toList = some previous ∧
      Artifact.render config.artifactSettings aggregation previous = .ok artifact ∧
      artifact.source = found := by
  rintro ⟨found, previous, artifact, read, told, rendered, same⟩
  rw [outdated.read_eq, Except.ok.injEq] at read
  rcases String.toByteArray_inj.1 read with rfl
  exact outdated.ne_source told rendered same.symm

/-- The clock decides where no file is at the path of the artifact, and where an outdated text is.
The artifact is found again at its path at another reading of the clock. A source date decides
whatever is at the path. -/
theorem stamp_moves_with_body_workspace :
    let outcome := fun (circumstances : Circumstances) (place : Workspace) =>
      Artifact.renderStable config.artifactSettings aggregation circumstances
        (place.readText config.outputPath).toOption
    let made := Artifact.mk source (Candidate.collisions (Candidate.sorted aggregation.candidates))
    outcome circumstances workspace = .ok made ∧
      outcome (circumstances.withClock ⟨86400, 5⟩) (workspaceWith source) = .ok made ∧
      (∀ text ∈ outdatedTexts, outcome circumstances (workspaceWith text) = .ok made ∧
        (workspaceWith text).read config.outputPath ≠ .ok source.toUTF8) ∧
      ∀ text, outcome ⟨.ofVariable (some "0"), ⟨86400, 5⟩, .never⟩ (workspaceWith text) =
        .ok made := by
  intro outcome made
  have notFixed : ∀ instant, ¬SourceDate.Fixes none instant := by
    rintro instant ⟨value, seconds, unset, _⟩
    cases unset
  refine ⟨?_, ?_, fun text member => ?_, fun text => ?_⟩
  · rcases @Artifact.stamp_moves_with_body config.artifactSettings aggregation circumstances
      workspace config.outputPath none (by decide) rfl with ⟨free, _⟩
    refine ((free notFixed).2 ?_).1.trans render_aggregation
    rintro ⟨text, previous, artifact, read, _⟩
    have missing := read_outputPath
    rw [read] at missing
    cases missing
  · rcases @Artifact.stamp_moves_with_body config.artifactSettings aggregation
      (circumstances.withClock ⟨86400, 5⟩) (workspaceWith source) config.outputPath none (by decide)
      rfl with ⟨free, _⟩
    exact (free notFixed).1 ⟨0, 0⟩ made (by decide) rfl render_aggregation
      read_workspaceWith_source
  · rcases @Artifact.stamp_moves_with_body config.artifactSettings aggregation circumstances
      (workspaceWith text) config.outputPath none (by decide) rfl with ⟨free, _⟩
    rcases (free notFixed).2 (isOutdated_of_mem text member).not_genuine with ⟨byClock, differs⟩
    have makes := byClock.trans render_aggregation
    exact ⟨makes, differs made makes⟩
  · rcases @Artifact.stamp_moves_with_body config.artifactSettings aggregation
      ⟨.ofVariable (some "0"), ⟨86400, 5⟩, .never⟩ (workspaceWith text) config.outputPath (some "0")
      (by decide) rfl with ⟨_, fixed, _⟩
    exact (fixed ⟨0, 0⟩ ⟨"0", 0, rfl, by decide, by decide⟩).trans render_aggregation

end Sample

end Registrar
