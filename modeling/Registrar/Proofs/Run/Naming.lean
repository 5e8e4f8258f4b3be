import Registrar.Proofs.Artifact.Lines
import Registrar.Proofs.Run.Stability
import Registrar.Proofs.Source.Words

/-!
# What the names in an artifact denote

A run accepts declarations by their names and modules, but its artifact refers to them by their
names alone. Whether these denote what was accepted depends on what was found: two modules that
declare one name make an artifact in which this name is imported twice.
-/

namespace Registrar

theorem ArtifactSettings.readTokens?_codecName {settings : ArtifactSettings}
    (named : Source.isName settings.codecName.toList = true) :
    Source.readTokens? settings.codecName.toList = some [.word settings.codecWord] := by
  rcases Source.exists_word_of_isName named with ⟨name, read⟩
  rw [codecWord, read]

namespace Config

variable {config : Config} {workspace : Workspace} {circumstances : Circumstances}
  {survey : Survey} {artifact : Artifact}

theorem source_of_artifactFor
    (made : config.artifactFor workspace circumstances survey = .ok artifact) :
    ∃ instant, artifact.source.toList =
      ArtifactSource.text config.artifactSettings survey.aggregation instant := by
  rcases Artifact.exists_render_of_renderStable made with ⟨instant, rendered⟩
  rcases (Artifact.render_eq_ok.1 rendered).2.2 with rfl
  exact ⟨instant, String.toList_ofList⟩

/-- The names in an artifact are unambiguous exactly if those of what was found are. The artifact
shows what it brings into scope and that it refers to declarations by name. Each of these names
denotes the declaration that was accepted if and only if no two declarations share a name, and none
has a name that the artifact imports or defines for itself; nothing else is named twice if, besides,
the codec is not named like an import that the artifact needs itself. -/
theorem names_are_unambiguous_iff (valid : config.validate workspace = .ok ())
    (made : config.artifactFor workspace circumstances survey = .ok artifact) :
    Source.readTokens? config.codecName.toList = some [.word config.artifactSettings.codecWord] ∧
      ArtifactSource.Shows artifact.source.toList config.artifactSettings survey.aggregation ∧
      (ArtifactSource.IsUnambiguous config.artifactSettings survey.aggregation ↔
        ArtifactSource.HasOwnNames config.artifactSettings survey.aggregation ∧
          simpleName config.artifactSettings.codecWord ∉ ["Any", "HashMap", "LazyLock"]) ∧
      ((∀ id ∈ survey.aggregation.importedIds,
        ArtifactSource.Denotes config.artifactSettings survey.aggregation id) ↔
          ArtifactSource.HasOwnNames config.artifactSettings survey.aggregation) := by
  have word := @ArtifactSettings.readTokens?_codecName config.artifactSettings
    (isAccepted_of_validate valid).codecName
  refine ⟨word, ?_, ArtifactSource.isUnambiguous_iff, ArtifactSource.forall_denotes_iff⟩
  rcases source_of_artifactFor made with ⟨instant, source⟩
  rw [source]
  exact ArtifactSource.shows_text _ _ instant

end Config

namespace Sample

/-- In the small workspace, the only declaration is what its name denotes in the artifact. -/
theorem names_are_unambiguous_workspace :
    ∃ survey artifact, config.survey workspace = .ok survey ∧
      config.artifactFor workspace circumstances survey = .ok artifact ∧
      ArtifactSource.IsUnambiguous config.artifactSettings survey.aggregation ∧
      ArtifactSource.Denotes config.artifactSettings survey.aggregation ⟨"A", "crate::a"⟩ := by
  rcases exists_artifactFor with ⟨survey, surveyed, found, made⟩
  rcases Config.names_are_unambiguous_iff validate_workspace made with
    ⟨_, _, unambiguous, denotes⟩
  have ownNames : ArtifactSource.HasOwnNames config.artifactSettings survey.aggregation := by
    rw [found]
    exact ⟨by decide, by decide⟩
  refine ⟨survey, _, surveyed, made, unambiguous.2 ⟨ownNames, by decide⟩,
    denotes.2 ownNames _ ?_⟩
  rw [found]
  exact List.mem_cons_self

end Sample

end Registrar
