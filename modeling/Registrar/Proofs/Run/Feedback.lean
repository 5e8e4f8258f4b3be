import Registrar.Proofs.Artifact.ScanOrder
import Registrar.Proofs.Run.Registration

/-!
# Artifacts feed nothing back

Files that hold the text of some artifact may lie anywhere in a tree without links: a run finds what
it would find without them. Whatever way such a file is met, by its name, its directory, the
patterns, its module or its first line, nothing in it is taken for a declaration. Only a file whose
path is too long to be opened leaves a trace, because it is recorded that it cannot be read.
-/

namespace Registrar

/-- Whether a text can be rendered, for whatever settings, findings and instant. -/
def Artifact.IsRendered (text : String) : Prop :=
  ∃ settings aggregation instant artifact,
    render settings aggregation instant = .ok artifact ∧ text = artifact.source

theorem Artifact.IsRendered.isGenerated {text : String} (rendered : IsRendered text) :
    Header.isGenerated text.toList = true := by
  rcases rendered with ⟨settings, aggregation, instant, artifact, made, rfl⟩
  rcases render_eq_ok.1 made with ⟨_, _, rfl⟩
  rw [String.toList_ofList]
  exact ArtifactSource.isGenerated_text settings aggregation instant

/-- Whether files with rendered texts, and directories for them, were added to a workspace where
nothing lay. -/
structure Workspace.AddsArtifacts (before after : Workspace) : Prop where
  directory : after.directory = before.directory
  kept : ∀ location entry, before.tree.entry? location = some entry →
    after.tree.entry? location = some entry
  fresh : ∀ location entry, after.tree.entry? location = some entry →
    before.tree.entry? location = none →
    entry = .directory ∨ ∃ text, Artifact.IsRendered text ∧ entry = .file text.toUTF8

/-- More entries at the end of a tree add what they hold wherever nothing lay. -/
theorem Workspace.addsArtifacts_append {before : Workspace} {added : List (Location × Entry)}
    (rendered : ∀ entry ∈ added, entry.2 = .directory ∨
      ∃ text, Artifact.IsRendered text ∧ entry.2 = .file text.toUTF8) :
    AddsArtifacts before ⟨⟨before.tree.entries ++ added⟩, before.directory⟩ := by
  refine ⟨rfl, ?_, ?_⟩
  · intro location entry present
    by_cases root : location = []
    · rw [root] at present ⊢
      exact present
    · rw [FileTree.entry?_of_ne_nil root] at present ⊢
      rw [List.lookup_append, present, Option.some_or]
  · intro location entry present absent
    have root : location ≠ [] := by
      rintro rfl
      cases absent
    rw [FileTree.entry?_of_ne_nil root] at present absent
    rw [List.lookup_append, absent, Option.none_or] at present
    rcases List.lookup_eq_some_iff.1 present with ⟨earlier, others, split, _⟩
    exact rendered (location, entry) (by simp [split])

namespace ExaminedFile

variable {examined : ExaminedFile}

/-- A file that was not scanned adds no candidates. -/
theorem candidates_eq_nil (notScanned : ∀ findings, examined.examination ≠ .scanned findings) :
    examined.candidates = [] := by
  rw [candidates]
  split
  · exact absurd ‹_› (notScanned _)
  · rfl

theorem overrides_eq_nil (kind : OverrideKind)
    (notScanned : ∀ findings, examined.examination ≠ .scanned findings) :
    examined.overrides kind = [] := by
  rw [overrides.eq_def]
  split
  · exact absurd ‹_› (notScanned _)
  · exact absurd ‹_› (notScanned _)
  · rfl

theorem rejections_eq_nil (notScanned : ∀ findings, examined.examination ≠ .scanned findings) :
    examined.rejections = [] := by
  rw [rejections]
  split
  · exact absurd ‹_› (notScanned _)
  · rfl

theorem failures_eq_nil (notFailed : ∀ error, examined.examination ≠ .failed error) :
    examined.failures = [] := by
  rw [failures]
  split
  · exact absurd ‹_› (notFailed _)
  · rfl

end ExaminedFile

namespace Scope

variable {scope : Scope} {workspace : Workspace} {file : FoundFile}

/-- A file that can only be read as a generated text is not scanned. -/
theorem examine_ne_scanned
    (generated : ∀ text, workspace.readText file.path = .ok text →
      Header.isGenerated text.toList = true) (findings : Findings) :
    scope.examine workspace file ≠ .scanned findings := by
  rw [examine]
  rcases ModulePath.ofFile? scope.sourceRoot file.path scope.cratePrefix with _ | module
  · simp
  · rcases read : workspace.readText file.path with cause | text
    · simp
    · simp [examineText, generated text read]

theorem examine_ne_failed {text : String} (read : workspace.readText file.path = .ok text)
    (error : String) : scope.examine workspace file ≠ .failed error := by
  rw [examine]
  rcases ModulePath.ofFile? scope.sourceRoot file.path scope.cratePrefix with _ | module
  · simp
  · simp only [read, examineText]
    split
    · simp
    · split <;> simp

end Scope

/-- What is made of the elements of a list is made of those that count. -/
theorem flatMap_filter_of_idle {Value Result : Type} {counts : Value → Bool}
    {made : Value → List Result} {values : List Value}
    (idle : ∀ value ∈ values, counts value = false → made value = []) :
    (values.filter counts).flatMap made = values.flatMap made := by
  induction values with
  | nil => rfl
  | cons first others ih =>
    have othersSame := ih fun value member => idle value (List.mem_cons_of_mem _ member)
    cases kept : counts first with
    | true => rw [List.filter_cons_of_pos kept, List.flatMap_cons, List.flatMap_cons, othersSame]
    | false =>
      rw [List.filter_cons_of_neg (by simp [kept]), List.flatMap_cons,
        idle first List.mem_cons_self kept, List.nil_append, othersSame]

/-- A path below one that can be opened can be opened unless it is too long. -/
theorem FilePath.IsOpenable.below {base : FilePath} {names : Location} (openable : base.IsOpenable)
    (named : ∀ name ∈ names, IsFileName name)
    (short : (FoundFile.below base names).path.text.utf8ByteSize < Workspace.pathLimit) :
    (FoundFile.below base names).path.IsOpenable := by
  suffices solid : (FoundFile.below base names).path.text ≠ "" ∧
      '\x00' ∉ (FoundFile.below base names).path.text.toList from ⟨solid.1, solid.2, short⟩
  have nonempty := openable.nonempty
  have noZero := openable.noZero
  clear short openable
  simp only [FoundFile.below]
  induction names generalizing base with
  | nil => exact ⟨nonempty, noZero⟩
  | cons name others ih =>
    have fits := named name List.mem_cons_self
    apply ih fun other member => named other (List.mem_cons_of_mem _ member)
    · exact FilePath.text_join_ne_empty nonempty fits.isAbsolute_eq_false
    · rw [FilePath.toList_text_join fits.isAbsolute_eq_false]
      split
      · simp [noZero, fits.no_zero]
      · simp [noZero, fits.no_zero]

/-- Files below a base directory are told apart by the names that lead to them. -/
theorem FoundFile.eq_of_below_eq {base : FilePath} {names others : Location} (nonempty : names ≠ [])
    (othersNonempty : others ≠ []) (named : ∀ name ∈ names, IsSegmentName name)
    (othersNamed : ∀ name ∈ others, IsSegmentName name)
    (same : FoundFile.below base names = FoundFile.below base others) : names = others := by
  have sameRelative := congrArg FoundFile.relative same
  simp only [FoundFile.below] at sameRelative
  have sameComponents := congrArg FilePath.components sameRelative
  rw [FilePath.components_intercalate nonempty named,
    FilePath.components_intercalate othersNonempty othersNamed] at sameComponents
  have injective : Function.Injective Component.name := fun _ _ same => Component.name.inj same
  exact injective.list_map sameComponents

namespace Workspace.AddsArtifacts

open FileTree

variable {before after : Workspace} {base : FilePath} {directory names : Location}
  (adds : AddsArtifacts before after)

include adds

/-- Whatever led to a directory still leads there. -/
theorem locate_eq (located : before.locate base true = .ok directory) :
    after.locate base true = .ok directory := by
  have openable := isOpenable_of_locate_eq_ok located
  rw [locate_of_isOpenable openable] at located ⊢
  rcases leads_of_follow located with ⟨used, bound, leads⟩
  have sameStart : after.startOf base = before.startOf base := by
    rw [startOf, startOf, adds.directory]
  rw [sameStart, follow_of_leads (leads.mono adds.kept), if_pos bound]

/-- The files that were there are held as before. -/
theorem holdsSource_iff (held : (before.tree.entry? (directory ++ names)).isSome = true) :
    before.tree.HoldsSource directory names ↔ after.tree.HoldsSource directory names := by
  constructor
  · rintro ⟨nonempty, visited, bytes, present⟩
    exact ⟨nonempty, visited, bytes, adds.kept _ _ present⟩
  · rintro ⟨nonempty, visited, bytes, present⟩
    rcases Option.isSome_iff_exists.1 held with ⟨entry, earlier⟩
    have same := adds.kept _ _ earlier
    rw [present] at same
    exact ⟨nonempty, visited, bytes, earlier.trans same.symm⟩

section Added

variable (plain : after.IsPlain) (located : after.locate base true = .ok directory)
  (isDirectory : after.tree.entry? directory = some .directory)
  (holds : after.tree.HoldsSource directory names)
  (added : before.tree.entry? (directory ++ names) = none)

include plain located isDirectory holds added

/-- A file that was added can be read if its path can be opened, and then as a rendered text. -/
theorem exists_rendered :
    ∃ rendered, Artifact.IsRendered rendered ∧
      ∀ text, after.readText (FoundFile.below base names).path = .ok text ↔
        (FoundFile.below base names).path.IsOpenable ∧ rendered.toUTF8 = text.toUTF8 := by
  rcases holds with ⟨_, _, content, present⟩
  rcases adds.fresh _ _ present added with isDirectory | ⟨rendered, isRendered, isText⟩
  · cases isDirectory
  · rcases Entry.file.inj isText with rfl
    exact ⟨rendered, isRendered, fun text =>
      readText_below_eq_ok_iff plain.tree.wellFormed plain.tree.named located isDirectory present⟩

theorem isGenerated_of_readText {text : String}
    (read : after.readText (FoundFile.below base names).path = .ok text) :
    Header.isGenerated text.toList = true := by
  rcases adds.exists_rendered plain located isDirectory holds added with
    ⟨rendered, isRendered, readable⟩
  have same := Text.fromUTF8?_eq_some_iff.2 ((readable text).1 read).2
  rw [Text.fromUTF8?_eq_some_iff.2 rfl, Option.some.injEq] at same
  rw [← same]
  exact isRendered.isGenerated

theorem exists_readText (openable : (FoundFile.below base names).path.IsOpenable) :
    ∃ text, after.readText (FoundFile.below base names).path = .ok text := by
  rcases adds.exists_rendered plain located isDirectory holds added with
    ⟨rendered, _, readable⟩
  exact ⟨rendered, (readable rendered).2 ⟨openable, rfl⟩⟩

end Added

section Examined

variable (plain : before.IsPlain) (plainAfter : after.IsPlain)
  (located : before.locate base true = .ok directory)
  (isDirectory : before.tree.entry? directory = some .directory)

include plain plainAfter

/-- The files of a kind that were there are those of its files that are found later and were
there. -/
theorem filter_filesBelow_eq (path : List UInt8) (directory : Location)
    (keeps : Location → Bool) :
    ((after.tree.filesBelow path directory).filter keeps).filter
        (fun names => (before.tree.entry? (directory ++ names)).isSome) =
      (before.tree.filesBelow path directory).filter keeps := by
  have present : ∀ names ∈ (before.tree.filesBelow path directory).filter keeps,
      (before.tree.entry? (directory ++ names)).isSome = true := by
    intro names member
    rcases holdsSource_of_mem_filesBelow plain.tree.wellFormed (List.mem_filter.1 member).1 with
      ⟨_, _, content, isFile⟩
    rw [isFile]
    rfl
  rw [← List.filter_eq_self.2 present, List.filter_filter, List.filter_filter]
  symm
  apply filter_filesBelow_congr plain.tree.wellFormed plainAfter.tree.wellFormed
  intro names kept
  exact adds.holdsSource_iff (Bool.and_eq_true_iff.1 kept).1

include located isDirectory

/-- Whatever the files that were added add nothing to is the same with them and without them. -/
theorem flatMap_examineAll_eq {Value : Type} {scope : Scope} {keeps : Location → Bool}
    {added : ExaminedFile → List Value}
    (idle : ∀ names ∈ (after.tree.filesBelow base.bytes directory).filter keeps,
      before.tree.entry? (directory ++ names) = none →
        added ⟨(FoundFile.below base names).relative,
          scope.examine after (FoundFile.below base names)⟩ = []) :
    (scope.examineAll after (((after.tree.filesBelow base.bytes directory).filter keeps).map
        (FoundFile.below base))).flatMap added =
      (scope.examineAll before (((before.tree.filesBelow base.bytes directory).filter keeps).map
        (FoundFile.below base))).flatMap added := by
  simp only [Scope.examineAll, List.map_map, List.flatMap_map, Function.comp_apply]
  have onlyHeld := @flatMap_filter_of_idle _ _
    (fun names => (before.tree.entry? (directory ++ names)).isSome) _ _
    fun names member notHeld => idle names member (by simpa using notHeld)
  rw [← onlyHeld, adds.filter_filesBelow_eq plain plainAfter base.bytes directory keeps]
  apply List.flatMap_congr
  intro names member
  rcases holdsSource_of_mem_filesBelow plain.tree.wellFormed (List.mem_filter.1 member).1 with
    ⟨_, _, content, present⟩
  have sameText := readText_below_congr plain.tree.wellFormed plain.tree.named
    plainAfter.tree.wellFormed located (adds.locate_eq located) isDirectory
    (adds.kept _ _ isDirectory) present (adds.kept _ _ present)
  simp only [Scope.examine, sameText]

/-- What only scanned files add to is the same with the files that were added. -/
theorem flatMap_examineAll_eq_of_scanned {Value : Type} {scope : Scope} {keeps : Location → Bool}
    {added : ExaminedFile → List Value}
    (idle : ∀ examined : ExaminedFile, (∀ findings, examined.examination ≠ .scanned findings) →
      added examined = []) :
    (scope.examineAll after (((after.tree.filesBelow base.bytes directory).filter keeps).map
        (FoundFile.below base))).flatMap added =
      (scope.examineAll before (((before.tree.filesBelow base.bytes directory).filter keeps).map
        (FoundFile.below base))).flatMap added := by
  apply adds.flatMap_examineAll_eq plain plainAfter located isDirectory
  intro names member isNew
  have inTree := (List.mem_filter.1 member).1
  have holds := holdsSource_of_mem_filesBelow plainAfter.tree.wellFormed inTree
  apply idle
  exact Scope.examine_ne_scanned fun text =>
    adds.isGenerated_of_readText plainAfter (adds.locate_eq located) (adds.kept _ _ isDirectory)
      holds isNew

/-- The failures are the same with the files that were added if these can be opened. -/
theorem failures_examineAll_eq {scope : Scope} {keeps : Location → Bool}
    (short : ∀ names ∈ (after.tree.filesBelow base.bytes directory).filter keeps,
      before.tree.entry? (directory ++ names) = none →
        (FoundFile.below base names).path.text.utf8ByteSize < pathLimit) :
    (scope.examineAll after (((after.tree.filesBelow base.bytes directory).filter keeps).map
        (FoundFile.below base))).flatMap ExaminedFile.failures =
      (scope.examineAll before (((before.tree.filesBelow base.bytes directory).filter keeps).map
        (FoundFile.below base))).flatMap ExaminedFile.failures := by
  apply adds.flatMap_examineAll_eq plain plainAfter located isDirectory
  intro names member isNew
  have inTree := (List.mem_filter.1 member).1
  have holds := holdsSource_of_mem_filesBelow plainAfter.tree.wellFormed inTree
  rcases holds.isFile with ⟨content, present⟩
  have named := IsNamed.isFileName_of_mem plainAfter.tree.named present
  have openable := (isOpenable_of_locate_eq_ok located).below named (short names member isNew)
  rcases adds.exists_readText plainAfter (adds.locate_eq located) (adds.kept _ _ isDirectory) holds
    isNew openable with ⟨text, read⟩
  exact ExaminedFile.failures_eq_nil (Scope.examine_ne_failed read)

end Examined

end Workspace.AddsArtifacts

namespace Config

open Workspace

variable {config : Config} {before after : Workspace}

/-- Artifacts feed nothing back. In a tree without links, files that hold the text of any artifacts
and are added wherever nothing lay change neither the candidates of an accepted configuration nor
their order, the overrides and the rejections, so that at any instant the same is rendered. The
failures do not change either, unless a file that is selected among them has too long a path. -/
theorem artifacts_are_no_sources (plain : before.IsPlain) (plainAfter : after.IsPlain)
    (adds : AddsArtifacts before after) (valid : config.validate before = .ok ()) :
    ∃ survey later, config.survey before = .ok survey ∧ config.survey after = .ok later ∧
      later.aggregation.candidates = survey.aggregation.candidates ∧
      later.aggregation.serializer = survey.aggregation.serializer ∧
      later.aggregation.deserializer = survey.aggregation.deserializer ∧
      later.aggregation.statistics.rejections = survey.aggregation.statistics.rejections ∧
      ((∀ file ∈ later.discovery.files, file ∈ survey.discovery.files ∨
          file.path.text.utf8ByteSize < pathLimit) →
        later.aggregation.statistics.failures = survey.aggregation.statistics.failures) ∧
      ∀ settings instant, Artifact.render settings later.aggregation instant =
        Artifact.render settings survey.aggregation instant := by
  have accepted := isAccepted_of_validate valid
  rcases accepted.exists_baseDirectory with ⟨directory, located, isDirectory⟩
  rw [FileTree.isDirectory_iff] at isDirectory
  have locatedAfter := adds.locate_eq located
  have isDirectoryAfter := adds.kept _ _ isDirectory
  rcases accepted.exists_selector with ⟨selector, selects⟩
  rcases survey_eq_ok selects located isDirectory with
    ⟨survey, surveyed, files, examined⟩
  rcases survey_eq_ok selects locatedAfter isDirectoryAfter with
    ⟨later, surveyedLater, filesLater, examinedLater⟩
  refine ⟨survey, later, surveyed, surveyedLater, ?_⟩
  rw [files] at examined
  rw [filesLater] at examinedLater
  have sameOverride : ∀ kind,
      later.aggregation.override? kind = survey.aggregation.override? kind := by
    intro kind
    rw [Survey.aggregation, Survey.aggregation, Aggregation.override?_ofFiles,
      Aggregation.override?_ofFiles, examinedLater, examined]
    rw [adds.flatMap_examineAll_eq_of_scanned plain plainAfter located isDirectory
      fun _ => ExaminedFile.overrides_eq_nil kind]
  have sameCandidates : later.aggregation.candidates = survey.aggregation.candidates := by
    rw [Survey.aggregation, Survey.aggregation, Aggregation.candidates_ofFiles,
      Aggregation.candidates_ofFiles, examinedLater, examined]
    rw [adds.flatMap_examineAll_eq_of_scanned plain plainAfter located isDirectory
      fun _ => ExaminedFile.candidates_eq_nil]
  refine ⟨sameCandidates, sameOverride .serializer, sameOverride .deserializer, ?_, ?_, ?_⟩
  · rw [Survey.aggregation, Survey.aggregation, Aggregation.rejections_ofFiles,
      Aggregation.rejections_ofFiles, examinedLater, examined]
    exact adds.flatMap_examineAll_eq_of_scanned plain plainAfter located isDirectory
      fun _ => ExaminedFile.rejections_eq_nil
  · intro short
    rw [Survey.aggregation, Survey.aggregation, Aggregation.failures_ofFiles,
      Aggregation.failures_ofFiles, examinedLater, examined]
    apply adds.failures_examineAll_eq plain plainAfter located isDirectory
    intro names member isNew
    rcases short _ (by rw [filesLater]; exact List.mem_map_of_mem member) with earlier | isShort
    · rw [files] at earlier
      rcases List.mem_map.1 earlier with ⟨others, otherMember, same⟩
      have holds := FileTree.holdsSource_of_mem_filesBelow plainAfter.tree.wellFormed
        (List.mem_filter.1 member).1
      have otherHolds := FileTree.holdsSource_of_mem_filesBelow plain.tree.wellFormed
        (List.mem_filter.1 otherMember).1
      rcases holds.isFile with ⟨_, present⟩
      rcases otherHolds.isFile with ⟨_, otherPresent⟩
      have equal := FoundFile.eq_of_below_eq otherHolds.nonempty holds.nonempty
        (plain.isSegmentName_of_mem otherPresent) (plainAfter.isSegmentName_of_mem present) same
      rw [equal, isNew] at otherPresent
      cases otherPresent
    · exact isShort
  · have same : Aggregation.SameFindings later.aggregation survey.aggregation :=
      ⟨.of_eq sameCandidates, sameOverride .serializer, sameOverride .deserializer⟩
    exact same.render_eq (Aggregation.nodup_id_ofFiles _)

end Config

namespace Sample

theorem isRendered_source : Artifact.IsRendered source :=
  ⟨_, _, _, _, render_aggregation, rfl⟩

/-- What is added to a workspace: the artifact, under two names that no run gives to it. -/
def copies : List (Location × Entry) :=
  [(["src", "copy.rs"], .file source.toUTF8), (["src", "generated"], .directory),
    (["src", "generated", "old.rs"], .file source.toUTF8)]

/-- The small workspace with these copies. -/
def copiesWorkspace : Workspace where
  tree := ⟨workspace.tree.entries ++ copies⟩
  directory := []

theorem isPlain_copiesWorkspace : copiesWorkspace.IsPlain := by
  refine ⟨FileTree.isPlain_of_entries ⟨by decide, ?_⟩ (by decide) ?_, rfl⟩
  · intro entry member
    simp only [copiesWorkspace, workspace, copies, List.cons_append, List.nil_append,
      List.mem_cons, List.not_mem_nil, or_false] at member
    rcases member with rfl | rfl | rfl | rfl | rfl <;> exact ⟨by simp, rfl⟩
  · simp [copiesWorkspace, workspace, copies]

theorem addsArtifacts_copies : workspace.AddsArtifacts copiesWorkspace := by
  apply Workspace.addsArtifacts_append
  intro entry member
  simp only [copies, List.mem_cons, List.not_mem_nil, or_false] at member
  rcases member with rfl | rfl | rfl
  · exact Or.inr ⟨source, isRendered_source, rfl⟩
  · exact Or.inl rfl
  · exact Or.inr ⟨source, isRendered_source, rfl⟩

theorem filesBelow_copiesWorkspace : copiesWorkspace.tree.filesBelow config.baseDirectory.bytes [] =
    [["src", "a.rs"], ["src", "copy.rs"], ["src", "generated", "old.rs"]] := by
  decide

/-- All that is selected among the copies has a short path. -/
theorem short_of_mem_copies {survey : Survey}
    (surveyed : config.survey copiesWorkspace = .ok survey) :
    ∀ file ∈ survey.discovery.files, file.path.text.utf8ByteSize < Workspace.pathLimit := by
  rcases Config.exists_selector surveyed with ⟨selector, selects⟩
  have located : copiesWorkspace.locate config.baseDirectory true = .ok [] := by decide
  rcases Config.survey_eq_ok selects located rfl with
    ⟨other, surveyedOther, files, _⟩
  rw [surveyed, Except.ok.injEq] at surveyedOther
  subst surveyedOther
  rw [files, filesBelow_copiesWorkspace]
  intro file member
  rcases List.mem_map.1 member with ⟨names, found, rfl⟩
  have inTree := (List.mem_filter.1 found).1
  simp only [List.mem_cons, List.not_mem_nil, or_false] at inTree
  rcases inTree with rfl | rfl | rfl <;> decide

/-- The copies change nothing in what is found and rendered. -/
theorem artifacts_are_no_sources_copies :
    ∃ later, config.survey copiesWorkspace = .ok later ∧
      later.aggregation.candidates = aggregation.candidates ∧
      later.aggregation.statistics.failures = [] ∧
      Artifact.render config.artifactSettings later.aggregation ⟨0, 0⟩ =
        .ok ⟨source, Candidate.collisions (Candidate.sorted aggregation.candidates)⟩ := by
  rcases Config.artifacts_are_no_sources isPlain_workspace isPlain_copiesWorkspace
    addsArtifacts_copies validate_workspace with
    ⟨survey, later, surveyed, surveyedLater, candidates, _, _, _, failures, rendering⟩
  rcases exists_survey with ⟨other, surveyedOther, found⟩
  rw [surveyed, Except.ok.injEq] at surveyedOther
  subst surveyedOther
  refine ⟨later, surveyedLater, ?_, ?_, ?_⟩
  · rw [candidates, found]
  · rw [failures fun file member => Or.inr (short_of_mem_copies surveyedLater file member), found]
    rfl
  · rw [rendering, found, render_aggregation]

/-- A workspace with a directory for sources, but without any source. -/
def emptyWorkspace : Workspace := ⟨⟨[(["src"], .directory)]⟩, []⟩

/-- The workspace to which a single file with the artifact was added. -/
def copyWorkspace : Workspace :=
  ⟨⟨emptyWorkspace.tree.entries ++ [(["src", "b.rs"], .file source.toUTF8)]⟩, []⟩

theorem isPlain_emptyWorkspace : emptyWorkspace.IsPlain := by
  refine ⟨FileTree.isPlain_of_entries ⟨by decide, ?_⟩ (by decide) ?_, rfl⟩
  · simp [emptyWorkspace]
  · simp [emptyWorkspace]

theorem isPlain_copyWorkspace : copyWorkspace.IsPlain := by
  refine ⟨FileTree.isPlain_of_entries ⟨by decide, ?_⟩ (by decide) ?_, rfl⟩
  · intro entry member
    simp only [copyWorkspace, emptyWorkspace, List.cons_append, List.nil_append, List.mem_cons,
      List.not_mem_nil, or_false] at member
    rcases member with rfl | rfl <;> exact ⟨by simp, rfl⟩
  · simp [copyWorkspace, emptyWorkspace]

theorem filesBelow_emptyWorkspace {path : List UInt8} :
    emptyWorkspace.tree.filesBelow path [] = [] := by
  apply FileTree.filesBelow_eq_nil isPlain_emptyWorkspace.tree.wellFormed
  intro names held
  rcases held.mem_entries with ⟨content, member⟩
  simp [emptyWorkspace] at member

/-- The copy is found below the directory, as long as the directory it lies in can be opened. -/
theorem filesBelow_copyWorkspace {slashes : Nat} (opens : slashes + 5 < Workspace.pathLimit) :
    copyWorkspace.tree.filesBelow (slashedDirectory slashes).bytes [] = [["src", "b.rs"]] := by
  have held : copyWorkspace.tree.HoldsSource [] ["src", "b.rs"] :=
    ⟨List.cons_ne_nil _ _, by decide, source.toUTF8, rfl⟩
  apply FileTree.filesBelow_eq_singleton isPlain_copyWorkspace.tree.wellFormed held
    (length_joinTo_source_lt opens)
  intro names others
  rcases others.mem_entries with ⟨content, member⟩
  simp only [copyWorkspace, emptyWorkspace, List.cons_append, List.nil_append, List.mem_cons,
    List.not_mem_nil, or_false, Prod.mk.injEq, reduceCtorEq, and_false, false_or] at member
  exact member.1

theorem addsArtifacts_copy : emptyWorkspace.AddsArtifacts copyWorkspace := by
  apply Workspace.addsArtifacts_append
  intro entry member
  rcases List.mem_singleton.1 member with rfl
  exact Or.inr ⟨source, isRendered_source, rfl⟩

/-- A single copy of the artifact may be recorded as a failure: its path may be too long. -/
theorem failures_differ_for_long_path :
    emptyWorkspace.IsPlain ∧ copyWorkspace.IsPlain ∧
      emptyWorkspace.AddsArtifacts copyWorkspace ∧
      (slashedConfig 4089).validate emptyWorkspace = .ok () ∧
      ∃ survey later, (slashedConfig 4089).survey emptyWorkspace = .ok survey ∧
        (slashedConfig 4089).survey copyWorkspace = .ok later ∧
        later.aggregation.statistics.failures ≠ survey.aggregation.statistics.failures := by
  have short : 4089 + 1 < Workspace.pathLimit := by decide
  have accepted : (slashedConfig 4089).IsAccepted emptyWorkspace :=
    isAccepted_slashedConfig short rfl
  refine ⟨isPlain_emptyWorkspace, isPlain_copyWorkspace, addsArtifacts_copy,
    Config.validate_of_isAccepted accepted, ?_⟩
  rcases accepted.exists_selector with ⟨selector, selects⟩
  rcases @Config.survey_eq_ok _ emptyWorkspace _ _ selects (locate_slashedDirectory short rfl) rfl
    with ⟨survey, surveyed, files, examined⟩
  have single := filesBelow_copyWorkspace (show 4089 + 5 < Workspace.pathLimit by decide)
  rcases exists_survey_slashedConfig short (by decide) rfl single with
    ⟨later, file, error, surveyedLater, examinedLater⟩
  refine ⟨survey, later, surveyed, surveyedLater, ?_⟩
  rw [filesBelow_emptyWorkspace, List.filter_nil, List.map_nil] at files
  rw [Survey.aggregation, Survey.aggregation, Aggregation.failures_ofFiles,
    Aggregation.failures_ofFiles, examined, examinedLater, files]
  exact List.cons_ne_nil _ _

end Sample

end Registrar
