import Registrar.Proofs.Workspace.Publication

/-!
# What a failed publication leaves behind

Whichever step of a publication fails, nothing is left behind but directories that were missing. The
temporary file is gone, and the path leads to the file to which it led before, or still to none: no
link can lead to a new place through directories that were made on the way to the path.
-/

namespace Registrar

namespace FileTree

variable {tree : FileTree}

/-- Segments lead nowhere else, or there is a last one that does. -/
theorem idle_or_exists_last_name (segments : List String) :
    (∀ segment ∈ segments, FilePath.isIdle segment.toList = true) ∨
      ∃ init name idles, segments = init ++ name :: idles ∧
        FilePath.isIdle name.toList = false ∧
        ∀ segment ∈ idles, FilePath.isIdle segment.toList = true := by
  induction segments with
  | nil => exact Or.inl nofun
  | cons segment rest ih =>
      rcases ih with idle | ⟨init, name, idles, rfl, moves, idle⟩
      · cases moves : FilePath.isIdle segment.toList
        · exact Or.inr ⟨[], segment, rest, rfl, moves, idle⟩
        · exact Or.inl (List.forall_mem_cons.2 ⟨moves, idle⟩)
      · exact Or.inr ⟨segment :: init, name, idles, rfl, moves, idle⟩

theorem Leads.eq_of_isIdle {used : Nat} {start place : Location} {segments : List String}
    (leads : tree.Leads used start segments place)
    (idle : ∀ segment ∈ segments, FilePath.isIdle segment.toList = true) : place = start := by
  have filtered := leads.filter_isIdle
  rw [List.filter_eq_nil_iff.2 (by simpa using idle)] at filtered
  cases filtered
  rfl

end FileTree

namespace Workspace

open FileTree

variable {workspace before after : Workspace} {faults : Faults} {path : FilePath} {text : String}
  {made : FileTree} {reason? : Location → Option FileError} {outcome : Except FileError Location}

/-- What is left behind where nothing was written to a path. -/
structure IsUnwritten (before after : Workspace) (path : FilePath) : Prop where
  directory : after.directory = before.directory
  adds : before.tree.AddsDirectories after.tree
  read : (after.read path).toOption = (before.read path).toOption

theorem IsUnwritten.refl (workspace : Workspace) (path : FilePath) :
    IsUnwritten workspace workspace path :=
  ⟨rfl, .refl _, rfl⟩

/-- Whatever was read at a path is read there after directories were added. -/
theorem read_of_addsDirectories {content : ByteArray}
    (directory : after.directory = before.directory)
    (adds : before.tree.AddsDirectories after.tree) (seen : before.read path = .ok content) :
    after.read path = .ok content := by
  rcases read_eq_ok_iff.1 seen with ⟨place, located, present⟩
  rcases locate_eq_ok_iff.1 located with ⟨openable, used, bound, leads⟩
  have start : after.startOf path = before.startOf path := by rw [startOf, startOf, directory]
  have leadsAfter := leads.mono adds.keeps
  rw [← start] at leadsAfter
  exact read_eq_ok_iff.2
    ⟨place, locate_eq_ok_iff.2 ⟨openable, used, bound, leadsAfter⟩, adds.keeps _ _ present⟩

/-- A path leads to no file through the directories that were made for it. -/
theorem isUnwritten_of_makes (wellFormed : before.WellFormed)
    (descends : Component.parent ∉ path.components)
    (makes : before.makeDirectoriesUnless reason? (directoryOf path) = (made, outcome))
    (directory : after.directory = before.directory)
    (entries : ∀ location, after.tree.entry? location = made.entry? location) :
    IsUnwritten before after path := by
  have adds : before.tree.AddsDirectories after.tree := by
    have addsMade := (makes_of_makeDirectoriesUnless wellFormed makes).adds
    constructor
    · intro location entry present
      rw [entries, addsMade.keeps _ _ present]
    · intro location absent present
      rw [entries] at present ⊢
      exact addsMade.fresh _ absent present
  have readBefore : ∀ content, after.read path = .ok content → before.read path = .ok content := by
    intro content seen
    rcases read_eq_ok_iff.1 seen with ⟨place, located, present⟩
    rcases locate_eq_ok_iff.1 located with ⟨openable, used, bound, leads⟩
    have start : after.startOf path = before.startOf path := by rw [startOf, startOf, directory]
    rw [start] at leads
    have presentBefore := adds.entry?_of_ne_directory present (by simp)
    rcases idle_or_exists_last_name path.segments with
      idle | ⟨init, name, idles, segments, moves, idle⟩
    · -- A path without names leads to the directory from which it starts.
      rw [leads.eq_of_isIdle idle, wellFormed.entry?_startOf] at presentBefore
      cases presentBefore
    · have notParent : name ≠ ".." ∧ ".." ∉ init := by
        have noParents := FilePath.parent_not_mem_segments descends
        rw [segments, List.mem_append, List.mem_cons, not_or, not_or] at noParents
        exact ⟨Ne.symm noParents.2.1, noParents.1⟩
      have leadsMade : made.Leads used (before.startOf path) path.segments place :=
        leads.mono fun location entry found => by rw [← entries, found]
      rcases (makes_directoryOf wellFormed segments moves idle makes).sameOrBarren notParent.2 with
        same | barren
      · rw [same] at leadsMade
        exact read_eq_ok_iff.2
          ⟨place, locate_eq_ok_iff.2 ⟨openable, used, bound, leadsMade⟩, presentBefore⟩
      · rw [segments] at leadsMade
        rcases leadsMade.split with ⟨_, _, _, _, here, onwards⟩
        exact absurd onwards ((barren _ _ here).not_leads moves notParent.1)
  refine ⟨directory, adds, Option.ext fun content => ?_⟩
  rw [toOption_eq_some_iff, toOption_eq_some_iff]
  exact ⟨readBefore content, read_of_addsDirectories directory adds⟩

/-- A file that is not replaced leaves only directories behind, and no temporary file. -/
theorem replaceFile_eq_error {cause : FileError}
    (failed : workspace.replaceFile faults path text = (after, .error cause)) :
    after.directory = workspace.directory ∧ ∃ made outcome,
      workspace.makeDirectoriesUnless (fun place => faults.cause? (.makeDirectory place))
        (directoryOf path) = (made, outcome) ∧
      ∀ location, after.tree.entry? location = made.entry? location := by
  rw [replaceFile] at failed
  split at failed
  · rename_i made _ makes
    rcases Prod.mk.inj failed with ⟨rfl, _⟩
    exact ⟨rfl, made, _, makes, fun _ => rfl⟩
  · rename_i made directory makes
    split at failed
    · rcases Prod.mk.inj failed with ⟨rfl, _⟩
      exact ⟨rfl, made, _, makes, fun _ => rfl⟩
    · simp only [fillAndRename] at failed
      split at failed
      · cases (Prod.mk.inj failed).2
      · rcases Prod.mk.inj failed with ⟨rfl, _⟩
        refine ⟨rfl, made, _, makes, fun location => ?_⟩
        have nonroot : directory ++ [made.unusedName] ≠ [] := by simp
        rw [entry?_remove nonroot, entry?_put nonroot]
        split
        · rename_i temporary
          rw [temporary, entry?_unusedName]
        · rfl

/-- A publication that fails has written nothing. -/
theorem isUnwritten_of_publish {failure : Failure} (wellFormed : workspace.WellFormed)
    (failed : workspace.publish faults path text = (after, .error failure)) :
    IsUnwritten workspace after path := by
  have untouched : workspace = after → IsUnwritten workspace after path := by
    rintro rfl
    exact .refl workspace path
  rw [publish] at failed
  rcases problem : workspace.outputPathProblem? path with _ | found
  · have descends : Component.parent ∉ path.components := by
      intro upwards
      rw [outputPathProblem?, if_pos (by simpa using upwards)] at problem
      cases problem
    rcases compared : workspace.freshness faults path text with cause | freshness
    · simp only [problem, compared, Prod.mk.injEq] at failed
      exact untouched failed.1
    · rcases replaced : workspace.replaceFile faults path text with ⟨final, cause | _⟩
      · rcases replaceFile_eq_error replaced with ⟨directory, made, outcome, makes, entries⟩
        have unwritten := isUnwritten_of_makes wellFormed descends makes directory entries
        cases freshness <;> simp only [problem, compared, replaced, Prod.mk.injEq] at failed
        · cases failed.2
        · rwa [← failed.1]
        · rwa [← failed.1]
      · cases freshness <;> simp [problem, compared, replaced] at failed
  · simp only [problem, Prod.mk.injEq] at failed
    exact untouched failed.1

end Workspace

end Registrar
