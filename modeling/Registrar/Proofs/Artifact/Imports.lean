import Mathlib.Data.List.Nodup
import Registrar.Artifact.Imports

/-!
# What the artifact takes from where

The imports of the artifact name every declaration that it is about in its module, each once.
-/

namespace Registrar

variable {text other : String} {texts : List String}

theorem mem_insertSorted : other ∈ insertSorted text texts ↔ other = text ∨ other ∈ texts := by
  induction texts with
  | nil => simp [insertSorted]
  | cons first others ih =>
    rw [insertSorted]
    split
    · simp
    · split
      · rename_i same
        simp [same]
      · rw [List.mem_cons, ih, List.mem_cons]
        exact or_left_comm

theorem pairwise_insertSorted (sorted : texts.Pairwise (· < ·)) :
    (insertSorted text texts).Pairwise (· < ·) := by
  induction texts with
  | nil => simp [insertSorted]
  | cons first others ih =>
    rw [List.pairwise_cons] at sorted
    rw [insertSorted]
    split
    · rename_i before
      rw [List.pairwise_cons, List.pairwise_cons]
      refine ⟨?_, sorted⟩
      intro later member
      rcases List.mem_cons.1 member with rfl | inOthers
      · exact before
      · exact String.lt_trans before (sorted.1 later inOthers)
    · split
      · rw [List.pairwise_cons]
        exact sorted
      · rename_i notBefore differs
        rw [List.pairwise_cons]
        refine ⟨?_, ih sorted.2⟩
        intro later member
        rcases mem_insertSorted.1 member with rfl | inOthers
        · rw [← String.not_le]
          intro after
          exact differs (String.le_antisymm after (String.not_lt.1 notBefore))
        · exact sorted.1 later inOthers

theorem mem_sortedDistinct : text ∈ sortedDistinct texts ↔ text ∈ texts := by
  induction texts with
  | nil => simp [sortedDistinct]
  | cons first others ih =>
    rw [sortedDistinct, List.foldr_cons, mem_insertSorted, List.mem_cons, ← ih, sortedDistinct]

theorem pairwise_sortedDistinct (texts : List String) :
    (sortedDistinct texts).Pairwise (· < ·) := by
  induction texts with
  | nil => exact .nil
  | cons first others ih => exact pairwise_insertSorted ih

theorem nodup_sortedDistinct (texts : List String) : (sortedDistinct texts).Nodup := by
  apply (pairwise_sortedDistinct texts).imp
  rintro left right before rfl
  exact String.lt_irrefl _ before

/-- The declarations that imports name. -/
def importedDeclarations (imports : List (String × List String)) : List DeclarationId :=
  imports.flatMap fun (module, names) => names.map fun name => ⟨name, module⟩

variable {ids : List DeclarationId} {id : DeclarationId}

/-- The imports name exactly the given declarations. -/
theorem mem_importedDeclarations : id ∈ importedDeclarations (importsByModule ids) ↔ id ∈ ids := by
  simp only [importedDeclarations, importsByModule, List.mem_flatMap, List.mem_map]
  constructor
  · rintro ⟨_, ⟨module, _, rfl⟩, name, named, rfl⟩
    rcases List.mem_map.1 (mem_sortedDistinct.1 named) with ⟨found, member, rfl⟩
    rcases List.mem_filter.1 member with ⟨inIds, inModule⟩
    rcases of_decide_eq_true inModule with rfl
    exact inIds
  · intro member
    refine ⟨_, ⟨id.module, mem_sortedDistinct.2 (List.mem_map_of_mem member), rfl⟩, id.name, ?_,
      rfl⟩
    apply mem_sortedDistinct.2
    apply List.mem_map_of_mem
    simp [member]

theorem nodup_importedDeclarations (ids : List DeclarationId) :
    (importedDeclarations (importsByModule ids)).Nodup := by
  rw [importedDeclarations, importsByModule, List.flatMap_map, List.nodup_flatMap]
  constructor
  · intro module _
    apply List.Nodup.map _ (nodup_sortedDistinct _)
    intro left right same
    exact congrArg DeclarationId.name same
  · apply (nodup_sortedDistinct _).imp
    intro left right differs id inLeft inRight
    rcases List.mem_map.1 inLeft with ⟨name, _, rfl⟩
    rcases List.mem_map.1 inRight with ⟨other, _, same⟩
    exact differs (congrArg DeclarationId.module same).symm

end Registrar
