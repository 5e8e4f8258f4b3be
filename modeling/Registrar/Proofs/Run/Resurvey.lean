import Registrar.Proofs.Discovery
import Registrar.Proofs.Selection
import Registrar.Proofs.Workspace.Publication

/-!
# The artifact is no source

In a tree without links, a survey after an artifact was written finds the same as the survey before
it. The artifact is found as prior output, whatever the spelling of the paths that lead to it, and
every selected file is read as before.
-/

namespace Registrar

/-- A workspace that a file system without links can hold. -/
structure Workspace.IsPlain (workspace : Workspace) : Prop where
  tree : workspace.tree.IsPlain
  directory : workspace.tree.entry? workspace.directory = some .directory

theorem Workspace.IsPlain.wellFormed {workspace : Workspace} (plain : workspace.IsPlain) :
    workspace.WellFormed :=
  ⟨plain.tree.wellFormed, plain.directory⟩

namespace Workspace

open FileTree

variable {before after : Workspace} {path base : FilePath} {content : ByteArray}
  {place directory names : Location}

/-- A file that lies below the base directory in two workspaces is read alike in both. -/
theorem readText_below_congr {bytes : ByteArray}
    (wellFormed : before.tree.WellFormed) (named : before.tree.IsNamed)
    (wellFormedAfter : after.tree.WellFormed) (located : before.locate base true = .ok directory)
    (locatedAfter : after.locate base true = .ok directory)
    (isDirectory : before.tree.entry? directory = some .directory)
    (isDirectoryAfter : after.tree.entry? directory = some .directory)
    (present : before.tree.entry? (directory ++ names) = some (.file bytes))
    (presentAfter : after.tree.entry? (directory ++ names) = some (.file bytes)) :
    after.readText (FoundFile.below base names).path =
      before.readText (FoundFile.below base names).path := by
  have namesNamed := named.isFileName_of_mem present
  rw [readText, readText, Workspace.read, Workspace.read]
  by_cases openable : (FoundFile.below base names).path.IsOpenable
  · rw [locate_below wellFormed located isDirectory namesNamed present (by simp) openable,
      locate_below wellFormedAfter locatedAfter isDirectoryAfter namesNamed presentAfter (by simp)
        openable]
    simp only [present, presentAfter]
  · rcases exists_cause_of_not_isOpenable openable with ⟨cause, fails⟩
    rw [fails, fails]

namespace IsWritten

variable (written : IsWritten before after path content place)

include written

theorem noLinks (plain : before.IsPlain) (location : Location) (target : FilePath) :
    after.tree.entry? location ≠ some (.link target) := by
  intro present
  by_cases same : location = place
  · rw [same, written.content] at present
    cases present
  · rcases written.fresh _ _ same present with earlier | directory
    · exact plain.tree.noLinks _ _ earlier
    · cases directory

theorem directory_kept {location : Location}
    (isDirectory : before.tree.entry? location = some .directory) :
    after.tree.entry? location = some .directory := by
  have differs : location ≠ place := by
    rintro rfl
    exact written.replaced isDirectory
  exact written.kept _ _ differs isDirectory

theorem startOf_eq (other : FilePath) : after.startOf other = before.startOf other := by
  rw [startOf, startOf, written.directory]

/-- Whatever led to a directory leads there after the writing. -/
theorem locate_directory (plain : before.IsPlain)
    (located : before.locate base true = .ok directory)
    (isDirectory : before.tree.entry? directory = some .directory) :
    after.locate base true = .ok directory := by
  have openable := isOpenable_of_locate_eq_ok located
  rw [locate_of_isOpenable openable] at located ⊢
  rcases leads_of_follow located with ⟨used, bound, leads⟩
  have leadsAfter := leads.transfer isDirectory (fun _ => written.directory_kept)
    fun _ _ _ _ _ present => absurd present (plain.tree.noLinks _ _)
  rw [written.startOf_eq, follow_of_leads leadsAfter, if_pos bound]

/-- A file other than the one that was written is held before the writing if and only if it is held
after it. -/
theorem holdsSource_iff (differs : directory ++ names ≠ place) :
    before.tree.HoldsSource directory names ↔ after.tree.HoldsSource directory names := by
  constructor
  · rintro ⟨nonempty, visited, bytes, present⟩
    exact ⟨nonempty, visited, bytes, written.kept _ _ differs present⟩
  · rintro ⟨nonempty, visited, bytes, present⟩
    rcases written.fresh _ _ differs present with earlier | isDirectory
    · exact ⟨nonempty, visited, bytes, earlier⟩
    · cases isDirectory

/-- A file other than the one that was written is read as before. -/
theorem readText_below (plain : before.IsPlain)
    (located : before.locate base true = .ok directory)
    (isDirectory : before.tree.entry? directory = some .directory)
    (differs : directory ++ names ≠ place) (holds : before.tree.HoldsSource directory names) :
    after.readText (FoundFile.below base names).path =
      before.readText (FoundFile.below base names).path := by
  rcases holds with ⟨_, _, bytes, present⟩
  exact readText_below_congr plain.tree.wellFormed plain.tree.named written.wellFormed.tree located
    (written.locate_directory plain located isDirectory) isDirectory
    (written.directory_kept isDirectory) present (written.kept _ _ differs present)

/-- What was written below a base directory lies where the remaining components lead from there. -/
theorem place_eq {rest : List Component} (plain : before.IsPlain)
    (located : before.locate base true = .ok directory)
    (components : path.components = base.components ++ rest)
    (sameStart : path.isAbsolute = base.isAbsolute) :
    place = directory ++ rest.filterMap Component.segment? := by
  have descends := written.descends
  have baseDescends : Component.parent ∉ base.components := by
    intro member
    rw [components] at descends
    exact descends (List.mem_append_left _ member)
  have locatedAfter := written.located
  rw [locate_of_isOpenable (isOpenable_of_locate_eq_ok located)] at located
  rw [locate_of_isOpenable (isOpenable_of_locate_eq_ok locatedAfter)] at locatedAfter
  rcases leads_of_follow located with ⟨_, _, leads⟩
  rcases leads_of_follow locatedAfter with ⟨_, _, leadsAfter⟩
  have start : after.startOf path = before.startOf base := by
    rw [written.startOf_eq, startOf, startOf, sameStart]
  rw [leadsAfter.eq_append_filter (written.noLinks plain)
      (FilePath.parent_not_mem_segments descends),
    leads.eq_append_filter plain.tree.noLinks (FilePath.parent_not_mem_segments baseDescends),
    start, ← FilePath.filterMap_segment?_components, ← FilePath.filterMap_segment?_components,
    components, List.filterMap_append, List.append_assoc]

end IsWritten

end Workspace

namespace Config

open Workspace

variable {config : Config} {before after : Workspace} {content : ByteArray} {place : Location}

/-- What the selector calls prior output is not selected. -/
theorem select_ne_selected {selector : Selector} {path : FilePath}
    (isOutput : selector.outputFile = some path.components) :
    selector.select path ≠ .selected := by
  have prior : selector.isPriorOutput path = true := by
    have generated : selector.hasGeneratedName path = true := by
      simp [Selector.hasGeneratedName_eq, isOutput]
    rw [← Bool.not_eq_false, Selector.isPriorOutput_eq_false_iff, generated]
    simp
  intro selected
  rw [(Selector.select_eq_selected_iff.1 selected).1] at prior
  cases prior

/-- The artifact is not selected, wherever the output directory lies below the base directory. -/
theorem differs_of_selected {selector : Selector} {directory names : Location}
    (accepted : config.IsAccepted before) (relative : config.outputDirectory.isAbsolute = false)
    (plain : before.IsPlain) (located : before.locate config.baseDirectory true = .ok directory)
    (written : IsWritten before after config.outputPath content place)
    (selects : config.selector = .ok selector)
    (selected : selector.select ⟨"/".intercalate names⟩ = .selected) :
    directory ++ names ≠ place := by
  have components := accepted.components_outputPath relative
  have baseNonempty := accepted.baseDirectory_nonempty
  have fileNamed := accepted.isSegmentName_outputFile
  have sameStart : config.outputPath.isAbsolute = config.baseDirectory.isAbsolute := by
    rw [outputPath, outputDirectoryPath, resolve,
      FilePath.isAbsolute_join (FilePath.text_join_ne_empty baseNonempty relative)
        fileNamed.isAbsolute_eq_false,
      FilePath.isAbsolute_join baseNonempty relative]
  intro same
  rw [written.place_eq plain located components sameStart, List.append_cancel_left_eq] at same
  apply select_ne_selected _ selected
  rcases selector_eq_ok accepted relative selects with ⟨sets, _, rfl⟩
  rw [same, FilePath.components_intercalate_segments]
  · rfl
  · simp
  · intro component member
    rcases List.mem_append.1 member with inDirectory | isFile
    · apply FilePath.exists_name_of_mem_innerComponents inDirectory
      rintro rfl
      apply written.descends
      rw [components]
      exact List.mem_append_right _ (List.mem_append_left _ inDirectory)
    · exact ⟨_, List.mem_singleton.1 isFile, fileNamed⟩

/-- A walk comes upon what lies below the base directory, also where that is a link. -/
theorem visits_eq_ok {workspace : Workspace} {base : FilePath} {directory : Location}
    (located : workspace.locate base true = .ok directory)
    (isDirectory : workspace.tree.entry? directory = some .directory) :
    workspace.visits base = .ok (workspace.tree.visitsBelow base.bytes directory) := by
  rcases locate_eq_ok_iff.1 located with ⟨openable, used, bound, leads⟩
  rcases leads.follow_false bound with found | ⟨location, target, found, isLink⟩
  · rw [← locate_of_isOpenable openable] at found
    simp only [visits, found, located, bind, Except.bind, isDirectory,
      FileTree.isDirectory_iff.2 isDirectory, if_true, pure, Except.pure]
  · rw [← locate_of_isOpenable openable] at found
    simp only [visits, found, located, bind, Except.bind, isLink,
      FileTree.isDirectory_iff.2 isDirectory, if_true, pure, Except.pure]

/-- What is found is what lies below the base directory. -/
theorem findFiles_eq_ok {workspace : Workspace} {base : FilePath} {directory : Location}
    (located : workspace.locate base true = .ok directory)
    (isDirectory : workspace.tree.entry? directory = some .directory) :
    workspace.findFiles base =
      .ok ((workspace.tree.filesBelow base.bytes directory).map (FoundFile.below base)) := by
  rw [findFiles, visits_eq_ok located isDirectory]
  rfl

/-- The survey of the files that are found. -/
theorem survey_of_findFiles {workspace : Workspace} {selector : Selector} {found : List FoundFile}
    (selects : config.selector = .ok selector)
    (finds : workspace.findFiles config.baseDirectory = .ok found) :
    ∃ survey, config.survey workspace = .ok survey ∧
      survey.discovery = selector.discoveryOf found ∧
      survey.examined =
        config.scope.examineAll workspace (selector.filesSelectedAs .selected found) := by
  rw [findFiles] at finds
  rcases walked : workspace.visits config.baseDirectory with cause | visits
  · rw [walked] at finds
    cases finds
  · rw [walked] at finds
    rcases finds with ⟨⟩
    have surveyed : config.survey workspace = .ok {
        discovery := selector.discoveryOf (FoundFile.ofVisits config.baseDirectory visits)
        examined := config.scope.examineAll workspace
          (selector.discoveryOf (FoundFile.ofVisits config.baseDirectory visits)).files
        discoveryEvents := selector.events config.baseDirectory visits } := by
      simp only [survey, selects, walked, Except.mapError, bind, Except.bind, pure, Except.pure]
    exact ⟨_, surveyed, rfl, rfl⟩

/-- The survey of a workspace in which the base directory is where it leads. -/
theorem survey_eq_ok {workspace : Workspace} {directory : Location} {selector : Selector}
    (selects : config.selector = .ok selector)
    (located : workspace.locate config.baseDirectory true = .ok directory)
    (isDirectory : workspace.tree.entry? directory = some .directory) :
    ∃ survey, config.survey workspace = .ok survey ∧
      survey.discovery.files =
        ((workspace.tree.filesBelow config.baseDirectory.bytes directory).filter fun names =>
          selector.select ⟨"/".intercalate names⟩ == .selected).map
            (FoundFile.below config.baseDirectory) ∧
      survey.examined = config.scope.examineAll workspace survey.discovery.files := by
  rcases survey_of_findFiles selects (findFiles_eq_ok located isDirectory) with
    ⟨survey, surveyed, discovered, examined⟩
  refine ⟨survey, surveyed, ?_, ?_⟩
  · rw [discovered, Selector.discoveryOf, Discovery.ofJudged, List.filter_map]
    rfl
  · rw [examined, discovered]
    rfl

theorem exists_selector {workspace : Workspace} {survey : Survey}
    (surveyed : config.survey workspace = .ok survey) :
    ∃ selector, config.selector = .ok selector := by
  rcases bind_eq_ok.1 surveyed with ⟨selector, selects, _⟩
  exact ⟨selector, selects⟩

/-- A survey after the artifact was written takes together what the one before it did. -/
theorem aggregation_after_write {survey : Survey} (accepted : config.IsAccepted before)
    (relative : config.outputDirectory.isAbsolute = false) (plain : before.IsPlain)
    (written : IsWritten before after config.outputPath content place)
    (surveyed : config.survey before = .ok survey) :
    ∃ later, config.survey after = .ok later ∧ later.aggregation = survey.aggregation := by
  rcases accepted.exists_baseDirectory with ⟨directory, located, isDirectory⟩
  rw [FileTree.isDirectory_iff] at isDirectory
  rcases exists_selector surveyed with ⟨selector, selects⟩
  have locatedAfter := written.locate_directory plain located isDirectory
  rcases survey_eq_ok selects located isDirectory with
    ⟨first, surveyedBefore, filesBefore, examinedBefore⟩
  obtain ⟨later, surveyedAfter, filesAfter, examinedAfter⟩ :=
    survey_eq_ok selects locatedAfter (written.directory_kept isDirectory)
  rw [surveyed, Except.ok.injEq] at surveyedBefore
  subst surveyedBefore
  refine ⟨later, surveyedAfter, ?_⟩
  have differs : ∀ names, (selector.select ⟨"/".intercalate names⟩ == .selected) = true →
      directory ++ names ≠ place := fun names selected =>
    differs_of_selected accepted relative plain located written selects (by simpa using selected)
  rw [Survey.aggregation, Survey.aggregation, examinedAfter, examinedBefore, filesAfter,
    filesBefore, ← FileTree.filter_filesBelow_congr plain.tree.wellFormed written.wellFormed.tree
      fun names selected => written.holdsSource_iff (differs names selected)]
  congr 1
  rw [Scope.examineAll, Scope.examineAll, List.map_map, List.map_map]
  apply List.map_congr_left
  intro names member
  rcases List.mem_filter.1 member with ⟨inTree, selected⟩
  have holds := FileTree.holdsSource_of_mem_filesBelow plain.tree.wellFormed inTree
  have sameText := written.readText_below plain located isDirectory (differs names selected) holds
  simp only [Function.comp_apply, Scope.examine, sameText]

end Config

end Registrar
