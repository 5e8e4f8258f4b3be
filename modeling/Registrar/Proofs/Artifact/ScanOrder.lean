import Registrar.Artifact
import Registrar.Proofs.Aggregation
import Registrar.Proofs.Artifact.Imports

/-!
# The order in which files are scanned

An artifact is told by what was found, whatever the order in which the files were scanned: the
candidates are put in an order that is total on their identities, the imports are sorted, and all
else in the text counts what was found. Only where two files qualify a declaration of one identity,
or where two overrides of one kind were found, does the order decide which of them holds.
-/

namespace Registrar

namespace Candidate

variable {left middle right : Candidate}

theorem precedes_iff :
    precedes left right = true ↔
      left.name < right.name ∨ left.name = right.name ∧ left.module ≤ right.module := by
  simp [precedes]

theorem precedes_total (left right : Candidate) :
    (precedes left right || precedes right left) = true := by
  rw [Bool.or_eq_true, precedes_iff, precedes_iff]
  by_cases same : left.name = right.name
  · rcases String.le_total left.module right.module with before | after
    · exact Or.inl (Or.inr ⟨same, before⟩)
    · exact Or.inr (Or.inr ⟨same.symm, after⟩)
  · by_cases before : left.name < right.name
    · exact Or.inl (Or.inl before)
    · right
      left
      rw [← String.not_le]
      intro after
      exact same (String.le_antisymm after (String.not_lt.1 before))

theorem precedes_trans (first : precedes left middle = true)
    (second : precedes middle right = true) : precedes left right = true := by
  rw [precedes_iff] at first second ⊢
  rcases first with less | ⟨same, before⟩
  · rcases second with lessAgain | ⟨sameAgain, _⟩
    · exact Or.inl (String.lt_trans less lessAgain)
    · exact Or.inl (sameAgain ▸ less)
  · rcases second with less | ⟨sameAgain, beforeAgain⟩
    · exact Or.inl (same ▸ less)
    · exact Or.inr ⟨same.trans sameAgain, String.le_trans before beforeAgain⟩

/-- Two candidates of which neither comes later have the same identity. -/
theorem id_eq_of_precedes (before : precedes left right = true)
    (after : precedes right left = true) : left.id = right.id := by
  rw [precedes_iff] at before after
  rcases before with less | ⟨same, moduleBefore⟩
  · rcases after with greater | ⟨sameName, _⟩
    · exact absurd greater (String.lt_asymm less)
    · exact absurd less (sameName ▸ String.lt_irrefl _)
  · rcases after with greater | ⟨_, moduleAfter⟩
    · exact absurd greater (same ▸ String.lt_irrefl _)
    · rw [id, id, same, String.le_antisymm moduleBefore moduleAfter]

theorem pairwise_sorted (candidates : List Candidate) :
    (sorted candidates).Pairwise fun left right => precedes left right = true :=
  @List.pairwise_mergeSort _ precedes (fun _ _ _ => precedes_trans) precedes_total _

/-- The order of registration does not depend on the order of candidates with distinct
identities. -/
theorem sorted_eq_of_perm {candidates others : List Candidate} (perm : candidates.Perm others)
    (distinct : (candidates.map Candidate.id).Nodup) : sorted candidates = sorted others := by
  have samePerm : (sorted candidates).Perm (sorted others) :=
    (List.mergeSort_perm _ _).trans (perm.trans (List.mergeSort_perm _ _).symm)
  apply List.Perm.eq_of_pairwise _ (pairwise_sorted _) (pairwise_sorted _) samePerm
  intro left right leftMember rightMember before after
  rw [sorted, List.mem_mergeSort] at leftMember rightMember
  exact List.inj_on_of_nodup_map distinct leftMember (perm.mem_iff.2 rightMember)
    (id_eq_of_precedes before after)

end Candidate

/-- The sorted texts of a list are told by which texts it has. -/
theorem sortedDistinct_congr {texts others : List String}
    (same : ∀ text, text ∈ texts ↔ text ∈ others) :
    sortedDistinct texts = sortedDistinct others := by
  have samePerm : (sortedDistinct texts).Perm (sortedDistinct others) := by
    rw [List.perm_ext_iff_of_nodup (nodup_sortedDistinct _) (nodup_sortedDistinct _)]
    intro text
    rw [mem_sortedDistinct, mem_sortedDistinct, same]
  apply List.Perm.eq_of_pairwise _ (pairwise_sortedDistinct _) (pairwise_sortedDistinct _) samePerm
  intro left right _ _ before after
  exact absurd after (String.lt_asymm before)

/-- The imports of declarations are told by which declarations there are. -/
theorem importsByModule_congr {ids others : List DeclarationId}
    (same : ∀ id, id ∈ ids ↔ id ∈ others) : importsByModule ids = importsByModule others := by
  have modules : sortedDistinct (ids.map DeclarationId.module) =
      sortedDistinct (others.map DeclarationId.module) := by
    apply sortedDistinct_congr
    intro text
    simp only [List.mem_map, same]
  rw [importsByModule, importsByModule, modules]
  apply List.map_congr_left
  intro module _
  congr 1
  apply sortedDistinct_congr
  intro text
  simp only [List.mem_map, List.mem_filter, same]

/-- Whether two aggregations hold the same candidates, in whatever order, and the same overrides. -/
structure Aggregation.SameFindings (left right : Aggregation) : Prop where
  candidates : left.candidates.Perm right.candidates
  serializer : left.serializer = right.serializer
  deserializer : left.deserializer = right.deserializer

namespace Aggregation

/-- Permuted files give the same findings where no identity and no kind of overrides is
contested. -/
theorem sameFindings_of_perm {files others : List ExaminedFile} (perm : files.Perm others)
    (distinct : ((files.flatMap ExaminedFile.candidates).map Candidate.id).Nodup)
    (uncontested : ∀ kind, (files.flatMap (ExaminedFile.overrides kind)).length ≤ 1) :
    SameFindings (ofFiles files) (ofFiles others) := by
  have permCandidates := perm.flatMap_right ExaminedFile.candidates
  have distinctOthers : ((others.flatMap ExaminedFile.candidates).map Candidate.id).Nodup :=
    (permCandidates.map Candidate.id).nodup_iff.1 distinct
  have sameOverride : ∀ kind, (ofFiles files).override? kind = (ofFiles others).override? kind := by
    intro kind
    have permOverrides := perm.flatMap_right (ExaminedFile.overrides kind)
    have bound := uncontested kind
    rw [override?_ofFiles, override?_ofFiles]
    -- A list of at most one override is the same in every order.
    rcases added : files.flatMap (ExaminedFile.overrides kind) with _ | ⟨only, _ | ⟨second, rest⟩⟩
    · rw [added] at permOverrides
      rw [permOverrides.nil_eq]
    · rw [added] at permOverrides
      rw [permOverrides.singleton_eq]
    · rw [added, List.length_cons, List.length_cons] at bound
      omega
  refine ⟨?_, sameOverride .serializer, sameOverride .deserializer⟩
  rw [candidates_ofFiles, candidates_ofFiles, foldl_insertCandidate_of_nodup distinct,
    foldl_insertCandidate_of_nodup distinctOthers]
  exact permCandidates

theorem SameFindings.importLines_eq {left right : Aggregation} (same : SameFindings left right) :
    importLines left = importLines right := by
  have sameIds : ∀ id, id ∈ left.importedIds ↔ id ∈ right.importedIds := by
    intro id
    rw [importedIds, importedIds, same.serializer, same.deserializer, List.mem_append,
      List.mem_append, (same.candidates.map Candidate.id).mem_iff]
  rw [importLines, importLines, importsByModule_congr sameIds]

/-- The text of an artifact is told by the findings. -/
theorem SameFindings.text_eq {left right : Aggregation} (same : SameFindings left right)
    (distinct : (left.candidates.map Candidate.id).Nodup) (settings : ArtifactSettings)
    (instant : Instant) :
    ArtifactSource.text settings left instant = ArtifactSource.text settings right instant := by
  have sameOrder := Candidate.sorted_eq_of_perm same.candidates distinct
  simp only [ArtifactSource.text, ArtifactSource.body, ArtifactSource.importSection,
    ArtifactSource.codecSection, same.importLines_eq, sameOrder, same.serializer,
    same.deserializer]

/-- An artifact, or the failure to render one, is told by the findings. -/
theorem SameFindings.render_eq {left right : Aggregation} (same : SameFindings left right)
    (distinct : (left.candidates.map Candidate.id).Nodup) (settings : ArtifactSettings)
    (instant : Instant) :
    Artifact.render settings left instant = Artifact.render settings right instant := by
  have sameEmptiness : left.isEmpty = right.isEmpty := by
    rw [isEmpty, isEmpty, same.candidates.isEmpty_eq]
  rw [Artifact.render, Artifact.render, sameEmptiness, same.text_eq distinct settings instant,
    Candidate.sorted_eq_of_perm same.candidates distinct]

end Aggregation

/-- Rendering does not depend on the order in which files are scanned. Where no two declarations
that qualify have the same name and module, and at most one override of each kind is found, files
in any two orders give the same failure, or the same bytes with the same collisions in the same
order. -/
theorem Artifact.render_ofFiles_perm {files others : List ExaminedFile} (perm : files.Perm others)
    (distinct : ((files.flatMap ExaminedFile.candidates).map Candidate.id).Nodup)
    (uncontested : ∀ kind, (files.flatMap (ExaminedFile.overrides kind)).length ≤ 1)
    (settings : ArtifactSettings) (instant : Instant) :
    render settings (Aggregation.ofFiles files) instant =
      render settings (Aggregation.ofFiles others) instant :=
  (Aggregation.sameFindings_of_perm perm distinct uncontested).render_eq
    (Aggregation.nodup_id_ofFiles files) settings instant

namespace Sample

/-- A file that declares a type of a name that other modules use too, under a key that is given. -/
def sharedName (path module key : String) (serializers : List String) : ExaminedFile where
  file := ⟨path⟩
  examination := .scanned ⟨module, [.qualifies ⟨"Shared", module, key⟩], serializers, []⟩

/-- Three files that declare types of one name. Two of these have the same key. -/
def sharedNames : List ExaminedFile :=
  [sharedName "src/a.rs" "crate::a" "" ["Packer"], sharedName "src/b.rs" "crate::b" "key" [],
    sharedName "src/c.rs" "crate::c" "key" []]

theorem collisions_sharedNames :
    Candidate.collisions (Candidate.sorted (Aggregation.ofFiles sharedNames).candidates) =
      [⟨"key", "crate::c::Shared", "crate::b::Shared"⟩] := by
  rw [Candidate.sorted, List.mergeSort_of_pairwise (by decide)]
  decide

theorem uncontested_sharedNames (kind : OverrideKind) :
    (sharedNames.reverse.flatMap (ExaminedFile.overrides kind)).length ≤ 1 := by
  cases kind <;> decide

/-- The files are rendered in the same way from the last to the first, with the same collision. -/
theorem render_reverse_sharedNames :
    Artifact.render .standard (Aggregation.ofFiles sharedNames.reverse) ⟨0, 0⟩ =
      Artifact.render .standard (Aggregation.ofFiles sharedNames) ⟨0, 0⟩ ∧
    Candidate.collisions (Candidate.sorted (Aggregation.ofFiles sharedNames.reverse).candidates) =
      [⟨"key", "crate::c::Shared", "crate::b::Shared"⟩] := by
  constructor
  · exact Artifact.render_ofFiles_perm sharedNames.reverse_perm (by decide)
      uncontested_sharedNames .standard ⟨0, 0⟩
  · have same := Aggregation.sameFindings_of_perm sharedNames.reverse_perm (by decide)
      uncontested_sharedNames
    rw [Candidate.sorted_eq_of_perm same.candidates (Aggregation.nodup_id_ofFiles _)]
    exact collisions_sharedNames

end Sample

end Registrar
