import Registrar.Proofs.Run.Registration

/-!
# What a file cannot do to the others

Two workspaces that differ in what one file holds lead to surveys that differ in what this file
owns: the candidates of its module, the rejections and the failure that are recorded of it, and the
overrides that it carries. Whatever the file holds, a survey comes about. Links may lie in the tree:
the file is found at most once, by the names that lead to it from the base directory.
-/

namespace Registrar

namespace MarkedDeclaration

/-- Whether a declaration overrides a conversion of the given kind. -/
def overrides (kind : OverrideKind) (declaration : MarkedDeclaration) : Bool :=
  match kind with
  | .serializer => declaration.serializer
  | .deserializer => declaration.deserializer

end MarkedDeclaration

/-- Whether bytes are a source text in which a declaration is marked as an override of a kind. -/
def MarkerNames.CarriesOverride (markers : MarkerNames) (kind : OverrideKind)
    (content : ByteArray) : Prop :=
  ∃ (text : String) (declarations : List MarkedDeclaration) (declaration : MarkedDeclaration),
    content = text.toUTF8 ∧
    MarkedDeclaration.scan? markers text.toList = some declarations ∧
    declaration ∈ declarations ∧ declaration.overrides kind = true

/-- Bytes carry an override if they are a text that is scanned, and one is among what is found. -/
theorem MarkerNames.carriesOverride_iff {markers : MarkerNames} {kind : OverrideKind}
    {content : ByteArray} :
    markers.CarriesOverride kind content ↔
      ∃ text ∈ String.fromUTF8? content, ∃ declarations ∈ MarkedDeclaration.scan? markers
        text.toList, ∃ declaration ∈ declarations, declaration.overrides kind = true := by
  constructor
  · rintro ⟨text, declarations, declaration, isText, scanned, member, overrides⟩
    exact ⟨text, Text.fromUTF8?_eq_some_iff.2 isText, declarations, scanned, declaration, member,
      overrides⟩
  · rintro ⟨text, isText, declarations, scanned, declaration, member, overrides⟩
    exact ⟨text, declarations, declaration, Text.fromUTF8?_eq_some_iff.1 isText, scanned, member,
      overrides⟩

instance (markers : MarkerNames) (kind : OverrideKind) (content : ByteArray) :
    Decidable (markers.CarriesOverride kind content) :=
  decidable_of_iff _ MarkerNames.carriesOverride_iff.symm

/-- Whether two aggregations agree on the candidates of all modules but one and on the records of
all files but one, where there is such a module or such a file. -/
structure Aggregation.AgreesBeyond (left right : Aggregation) (module : Option String)
    (file : Option FilePath) : Prop where
  candidates : left.candidates.filter (fun candidate => some candidate.module ≠ module) =
    right.candidates.filter fun candidate => some candidate.module ≠ module
  rejections : left.statistics.rejections.filter (fun record => some record.file ≠ file) =
    right.statistics.rejections.filter fun record => some record.file ≠ file
  failures : left.statistics.failures.filter (fun record => some record.file ≠ file) =
    right.statistics.failures.filter fun record => some record.file ≠ file

namespace Workspace

open FileTree

/-- The workspace in which the file at a location has other bytes. -/
def withContent (workspace : Workspace) (location : Location) (content : ByteArray) : Workspace :=
  { workspace with tree := workspace.tree.put location (.file content) }

variable {workspace : Workspace} {location : Location} {old : ByteArray} {path base : FilePath}
  {place directory : Location}

section Present

variable (present : workspace.tree.entry? location = some (.file old)) (content : ByteArray)

include present

theorem entry?_withContent (other : Location) :
    (workspace.withContent location content).tree.entry? other =
      if other = location then some (.file content) else workspace.tree.entry? other := by
  have nonroot : location ≠ [] := by
    rintro rfl
    cases present
  exact entry?_put nonroot

theorem wellFormed_withContent (wellFormed : workspace.tree.WellFormed) :
    (workspace.withContent location content).tree.WellFormed := by
  apply wellFormed_put wellFormed
  · rintro rfl
    cases present
  · exact wellFormed.entry?_dropLast present
  · simp [present]

theorem isNamed_withContent (named : workspace.tree.IsNamed) :
    (workspace.withContent location content).tree.IsNamed := by
  intro other entry found
  rw [entry?_withContent present] at found
  split at found
  · rename_i same
    rw [same]
    exact named location _ present
  · exact named other entry found

theorem entry?_withContent_of_ne_file {entry : Entry} {other : Location}
    (found : workspace.tree.entry? other = some entry) (noFile : ∀ bytes, entry ≠ .file bytes) :
    (workspace.withContent location content).tree.entry? other = some entry := by
  rw [entry?_withContent present, if_neg, found]
  rintro rfl
  rw [present, Option.some.injEq] at found
  exact noFile old found.symm

/-- The same files are held below a directory, whatever one of them holds. -/
theorem holdsSource_withContent {names : Location} :
    (workspace.withContent location content).tree.HoldsSource directory names ↔
      workspace.tree.HoldsSource directory names := by
  constructor
  · rintro ⟨nonempty, visited, bytes, found⟩
    refine ⟨nonempty, visited, ?_⟩
    rw [entry?_withContent present] at found
    split at found
    · rename_i same
      exact ⟨old, same ▸ present⟩
    · exact ⟨bytes, found⟩
  · rintro ⟨nonempty, visited, bytes, found⟩
    refine ⟨nonempty, visited, ?_⟩
    rw [entry?_withContent present]
    split
    · exact ⟨content, rfl⟩
    · exact ⟨bytes, found⟩

theorem filesBelow_withContent (wellFormed : workspace.tree.WellFormed) (path : List UInt8) :
    (workspace.withContent location content).tree.filesBelow path directory =
      workspace.tree.filesBelow path directory :=
  filesBelow_congr (wellFormed_withContent present content wellFormed) wellFormed
    fun _ => holdsSource_withContent present content

/-- A path leads to the same location, whatever the file holds. -/
theorem locate_withContent (located : workspace.locate path true = .ok place) :
    (workspace.withContent location content).locate path true = .ok place := by
  rcases locate_eq_ok_iff.1 located with ⟨openable, used, bound, leads⟩
  refine locate_eq_ok_iff.2 ⟨openable, used, bound, leads.mono_of_files ?_ ?_⟩
  · exact fun other entry => entry?_withContent_of_ne_file present content
  · intro other bytes found
    rw [entry?_withContent present]
    split
    · exact ⟨content, rfl⟩
    · exact ⟨bytes, found⟩

end Present

end Workspace

namespace Scope

variable {scope : Scope} {workspace : Workspace} {file : FoundFile}

/-- The candidates of a file are all of its module. -/
theorem module_of_mem_candidates {candidate : Candidate}
    (member : candidate ∈
      (ExaminedFile.mk file.relative (scope.examine workspace file)).candidates) :
    ModulePath.ofFile? scope.sourceRoot file.path scope.cratePrefix = some candidate.module :=
  (mem_id_examine.1 (List.mem_map_of_mem member)).1

/-- What is found in a file that is scanned are the declarations of its text. -/
theorem exists_scan_of_examine {findings : Findings}
    (scanned : scope.examine workspace file = .scanned findings) :
    ∃ module text declarations, workspace.readText file.path = .ok text ∧
      MarkedDeclaration.scan? scope.markers text.toList = some declarations ∧
      findings = Findings.ofDeclarations scope.contract module declarations := by
  rw [examine] at scanned
  split at scanned
  · cases scanned
  · rename_i module _
    split at scanned
    · cases scanned
    · rename_i text read
      rw [examineText] at scanned
      split at scanned
      · cases scanned
      · split at scanned
        · rename_i declarations found
          exact ⟨module, text, declarations, read, found, (Examination.scanned.inj scanned).symm⟩
        · cases scanned

/-- A file adds an override only if its text carries one. -/
theorem carriesOverride_of_mem_overrides {kind : OverrideKind} {binding : OverrideBinding}
    (member : binding ∈
      (ExaminedFile.mk file.relative (scope.examine workspace file)).overrides kind) :
    ∃ text, workspace.readText file.path = .ok text ∧
      scope.markers.CarriesOverride kind text.toUTF8 := by
  rcases examination : scope.examine workspace file with findings | _ | _ | _
  · rcases exists_scan_of_examine examination with
      ⟨module, text, declarations, read, scanned, rfl⟩
    have carrying : ∃ declaration ∈ declarations, declaration.overrides kind = true := by
      rw [examination] at member
      cases kind <;> rcases List.mem_map.1 member with ⟨name, inNames, _⟩ <;>
        rcases List.mem_map.1 inNames with ⟨declaration, marked, _⟩ <;>
        exact ⟨declaration, List.mem_filter.1 marked⟩
    rcases carrying with ⟨declaration, inDeclarations, overrides⟩
    exact ⟨text, read, text, declarations, declaration, rfl, scanned, inDeclarations, overrides⟩
  all_goals
    rw [examination] at member
    cases kind <;> cases member

end Scope

namespace ExaminedFile

variable {examined : ExaminedFile}

theorem file_of_mem_rejections {record : RejectionRecord} (member : record ∈ examined.rejections) :
    record.file = examined.file := by
  rw [rejections] at member
  split at member
  · rcases List.mem_map.1 member with ⟨rejection, _, rfl⟩
    rfl
  · cases member

theorem file_of_mem_failures {record : FileFailure} (member : record ∈ examined.failures) :
    record.file = examined.file := by
  rw [failures] at member
  split at member
  · rw [List.mem_singleton.1 member]
  · cases member

end ExaminedFile

namespace Config

open Workspace FileTree

/-- How the file at a location is found below a base directory, if it lies there. -/
def fileAt? (config : Config) (directory location : Location) : Option FoundFile :=
  if directory.isPrefixOf location then
    some (FoundFile.below config.baseDirectory (location.drop directory.length))
  else none

/-- The module of the file at a location, if it is found and has one. -/
def moduleAt? (config : Config) (directory location : Location) : Option String :=
  (config.fileAt? directory location).bind fun file =>
    ModulePath.ofFile? config.scope.sourceRoot file.path config.scope.cratePrefix

variable {config : Config} {workspace : Workspace} {location directory : Location}
  {old left right : ByteArray}

theorem fileAt?_append (names : Location) :
    config.fileAt? directory (directory ++ names) =
      some (FoundFile.below config.baseDirectory names) := by
  rw [fileAt?, if_pos (List.isPrefixOf_iff_prefix.2 (List.prefix_append _ _)), List.drop_left]

section Edited

variable (wellFormed : workspace.WellFormed) (named : workspace.tree.IsNamed)
  (present : workspace.tree.entry? location = some (.file old))
  (located : workspace.locate config.baseDirectory true = .ok directory)
  (isDirectory : workspace.tree.entry? directory = some .directory)

include wellFormed present located isDirectory

/-- The same files are found, whatever one of them holds. -/
theorem exists_findFiles_withContent :
    ∃ found, ∀ content, (workspace.withContent location content).findFiles config.baseDirectory =
      .ok found := by
  refine ⟨(workspace.tree.filesBelow config.baseDirectory.bytes directory).map
    (FoundFile.below config.baseDirectory), fun content => ?_⟩
  rw [← filesBelow_withContent present content wellFormed.tree]
  exact findFiles_eq_ok (locate_withContent present content located)
    (entry?_withContent_of_ne_file present content isDirectory nofun)

include named

/-- Every other file that is found is read as before. -/
theorem examine_withContent_congr {found : List FoundFile} {file : FoundFile}
    (finds : (workspace.withContent location left).findFiles config.baseDirectory = .ok found)
    (member : file ∈ found) (other : config.fileAt? directory location ≠ some file) :
    config.scope.examine (workspace.withContent location left) file =
      config.scope.examine (workspace.withContent location right) file := by
  rw [findFiles_eq_ok (locate_withContent present left located)
    (entry?_withContent_of_ne_file present left isDirectory nofun), Except.ok.injEq] at finds
  rw [← finds] at member
  rcases List.mem_map.1 member with ⟨names, inTree, rfl⟩
  have wellFormedLeft := wellFormed_withContent present left wellFormed.tree
  rcases holdsSource_of_mem_filesBelow wellFormedLeft inTree with ⟨_, _, content, isFile⟩
  have differs : directory ++ names ≠ location := by
    rintro rfl
    exact other (fileAt?_append names)
  have isFileRight : (workspace.withContent location right).tree.entry? (directory ++ names) =
      some (.file content) := by
    rw [entry?_withContent present, if_neg differs] at isFile ⊢
    exact isFile
  have sameText := readText_below_congr wellFormedLeft (isNamed_withContent present left named)
    (wellFormed_withContent present right wellFormed.tree)
    (locate_withContent present left located) (locate_withContent present right located)
    (entry?_withContent_of_ne_file present left isDirectory nofun)
    (entry?_withContent_of_ne_file present right isDirectory nofun) isFile isFileRight
  rw [Scope.examine, Scope.examine, sameText]

/-- The file adds no override if its bytes carry none. -/
theorem overrides_withContent {kind : OverrideKind} {file : FoundFile}
    (own : config.fileAt? directory location = some file)
    (plain : ¬config.markers.CarriesOverride kind left) :
    (ExaminedFile.mk file.relative
      (config.scope.examine (workspace.withContent location left) file)).overrides kind = [] := by
  rw [List.eq_nil_iff_forall_not_mem]
  intro binding member
  rcases Scope.carriesOverride_of_mem_overrides member with ⟨text, read, carries⟩
  rw [fileAt?] at own
  split at own
  · rename_i below
    rcases List.isPrefixOf_iff_prefix.1 below with ⟨names, rfl⟩
    rw [List.drop_left, Option.some.injEq] at own
    subst own
    have presentLeft : (workspace.withContent (directory ++ names) left).tree.entry?
        (directory ++ names) = some (.file left) := by
      rw [entry?_withContent present, if_pos rfl]
    rcases (readText_below_eq_ok_iff (wellFormed_withContent present left wellFormed.tree)
      (isNamed_withContent present left named) (locate_withContent present left located)
      (entry?_withContent_of_ne_file present left isDirectory nofun) presentLeft).1 read with
      ⟨_, isText⟩
    rw [← isText] at carries
    exact plain carries
  · cases own

/-- What all files add is the same if what the file adds is. -/
theorem flatMap_examineAll_congr {Value : Type} {found files : List FoundFile}
    {added : ExaminedFile → List Value}
    (finds : (workspace.withContent location left).findFiles config.baseDirectory = .ok found)
    (selected : ∀ file ∈ files, file ∈ found)
    (own : ∀ file, config.fileAt? directory location = some file →
      added ⟨file.relative, config.scope.examine (workspace.withContent location left) file⟩ =
        added ⟨file.relative,
          config.scope.examine (workspace.withContent location right) file⟩) :
    (config.scope.examineAll (workspace.withContent location left) files).flatMap added =
      (config.scope.examineAll (workspace.withContent location right) files).flatMap added := by
  simp only [Scope.examineAll, List.flatMap_map]
  apply List.flatMap_congr
  intro file member
  by_cases isOwn : config.fileAt? directory location = some file
  · exact own file isOwn
  · rw [examine_withContent_congr wellFormed named present located isDirectory finds
      (selected file member) isOwn]

/-- What all files add is the same but for what the file alone may add. -/
theorem filter_flatMap_examineAll_congr {Value : Type} {found files : List FoundFile}
    {added : ExaminedFile → List Value} {keeps : Value → Bool}
    (finds : (workspace.withContent location left).findFiles config.baseDirectory = .ok found)
    (selected : ∀ file ∈ files, file ∈ found)
    (own : ∀ content file, config.fileAt? directory location = some file →
      ∀ value ∈ added ⟨file.relative,
        config.scope.examine (workspace.withContent location content) file⟩,
        keeps value = false) :
    ((config.scope.examineAll (workspace.withContent location left) files).flatMap added).filter
        keeps =
      ((config.scope.examineAll (workspace.withContent location right) files).flatMap
        added).filter keeps := by
  rw [List.filter_flatMap, List.filter_flatMap]
  apply flatMap_examineAll_congr wellFormed named present located isDirectory finds selected
  intro file isOwn
  rw [List.filter_eq_nil_iff.2 (by simpa using own left file isOwn),
    List.filter_eq_nil_iff.2 (by simpa using own right file isOwn)]

end Edited

/-- Failures are isolated. Whatever bytes a file holds, a survey of an accepted configuration comes
about. Two contents of the file make a difference only to what the file owns: the same files are
selected, the candidates of all other modules are the same in the same order, and so are the
rejections and the failures that are recorded of all other files. An override is the same unless one
of the contents carries one of its kind. -/
theorem failures_are_isolated (wellFormed : workspace.WellFormed)
    (named : workspace.tree.IsNamed) (valid : config.validate workspace = .ok ())
    (present : workspace.tree.entry? location = some (.file old)) (left right : ByteArray) :
    ∃ directory survey other, workspace.locate config.baseDirectory true = .ok directory ∧
      config.survey (workspace.withContent location left) = .ok survey ∧
      config.survey (workspace.withContent location right) = .ok other ∧
      survey.discovery = other.discovery ∧
      survey.aggregation.AgreesBeyond other.aggregation (config.moduleAt? directory location)
        ((config.fileAt? directory location).map FoundFile.relative) ∧
      ∀ kind, ¬config.markers.CarriesOverride kind left →
        ¬config.markers.CarriesOverride kind right →
        survey.aggregation.override? kind = other.aggregation.override? kind := by
  have accepted := isAccepted_of_validate valid
  rcases accepted.exists_baseDirectory with ⟨directory, located, isDirectory⟩
  rw [FileTree.isDirectory_iff] at isDirectory
  rcases accepted.exists_selector with ⟨selector, selects⟩
  rcases exists_findFiles_withContent wellFormed present located isDirectory with ⟨found, finds⟩
  rcases survey_of_findFiles selects (finds left) with
    ⟨survey, surveyed, discovered, examined⟩
  rcases survey_of_findFiles selects (finds right) with
    ⟨other, surveyedOther, discoveredOther, examinedOther⟩
  have selected : ∀ file ∈ selector.filesSelectedAs .selected found, file ∈ found :=
    fun file member => (List.mem_filter.1 member).1
  have beyond := fun {Value added keeps} => @filter_flatMap_examineAll_congr _ _ _ _ _ left right
    wellFormed named present located isDirectory Value _ _ added keeps (finds left) selected
  refine ⟨directory, survey, other, located, surveyed, surveyedOther,
    discovered.trans discoveredOther.symm, ⟨?_, ?_, ?_⟩, ?_⟩
  · have sameId : ∀ first second : Candidate, first.id = second.id →
        decide (some first.module ≠ config.moduleAt? directory location) =
          decide (some second.module ≠ config.moduleAt? directory location) := by
      intro first second same
      have sameModule : first.module = second.module := congrArg DeclarationId.module same
      rw [sameModule]
    rw [Survey.aggregation, Survey.aggregation, examined, examinedOther,
      Aggregation.candidates_ofFiles, Aggregation.candidates_ofFiles,
      Aggregation.filter_foldl_insertCandidate sameId,
      Aggregation.filter_foldl_insertCandidate sameId, beyond]
    intro content file own candidate member
    rw [moduleAt?, own, Option.bind_some, Scope.module_of_mem_candidates member]
    simp
  · rw [Survey.aggregation, Survey.aggregation, examined, examinedOther,
      Aggregation.rejections_ofFiles, Aggregation.rejections_ofFiles, beyond]
    intro content file own record member
    simp [own, ExaminedFile.file_of_mem_rejections member]
  · rw [Survey.aggregation, Survey.aggregation, examined, examinedOther,
      Aggregation.failures_ofFiles, Aggregation.failures_ofFiles, beyond]
    intro content file own record member
    simp [own, ExaminedFile.file_of_mem_failures member]
  · intro kind plainLeft plainRight
    rw [Survey.aggregation, Survey.aggregation, examined, examinedOther,
      Aggregation.override?_ofFiles, Aggregation.override?_ofFiles,
      flatMap_examineAll_congr wellFormed named present located isDirectory (finds left) selected]
    intro file own
    rw [overrides_withContent wellFormed named present located isDirectory own plainLeft,
      overrides_withContent wellFormed named present located isDirectory own plainRight]

end Config

namespace Sample

/-- A workspace in which other files hold a candidate, a declaration that is rejected, an override
and bytes that are no text. -/
def sharedWorkspace : Workspace where
  tree := ⟨[(["src"], .directory), (["src", "a.rs"], .file .empty),
    (["src", "b.rs"], .file (String.toUTF8 ("#[encodable]struct B;" ++
      "impl B\x7bfn to_map(&self)->HashMap\x7b\x7dfn from_map(m:HashMap)->B\x7b\x7d\x7d" ++
      "#[encodable]struct C;#[codec_serializer]struct S;"))),
    (["src", "c.rs"], .file ⟨#[255]⟩)]⟩
  directory := []

/-- What is found in the other files of the workspace, behind what the first file adds. -/
def sharedAggregation (scanned : Nat) (candidates : List Candidate) (failures : List FileFailure) :
    Aggregation where
  candidates := candidates ++ [⟨"B", "crate::b", ""⟩]
  serializer := some ⟨.serializer, "S", "crate::b"⟩
  deserializer := none
  statistics := ⟨scanned, 0, 0,
    failures ++ [⟨⟨"src/c.rs"⟩, "stream did not contain valid UTF-8"⟩],
    [⟨⟨"src/b.rs"⟩, "C", ["missing serialize method `to_map(&self)`",
      "missing deserialize constructor `from_map(map)`"]⟩]⟩

theorem isNamed_sharedWorkspace : sharedWorkspace.tree.IsNamed :=
  FileTree.isNamed_of_entries (by decide)

theorem wellFormed_sharedWorkspace : sharedWorkspace.WellFormed := by
  refine ⟨⟨by decide, ?_⟩, rfl⟩
  simp [sharedWorkspace, FileTree.entry?]

/-- Where the first file declares a type that qualifies, this is a further candidate. Where it is no
text, it is a further failure. -/
theorem aggregations_shared :
    (config.survey (sharedWorkspace.withContent ["src", "a.rs"] qualifyingText.toUTF8)).toOption.map
        Survey.aggregation = some (sharedAggregation 2 [⟨"A", "crate::a", ""⟩] []) ∧
      (config.survey (sharedWorkspace.withContent ["src", "a.rs"] ⟨#[255]⟩)).toOption.map
        Survey.aggregation = some (sharedAggregation 1 []
          [⟨⟨"src/a.rs"⟩, "stream did not contain valid UTF-8"⟩]) := by
  decide +kernel

/-- A file that turns from a source with a candidate into one that is no text makes no difference to
the candidate, the rejection, the failure and the override of the other files. -/
theorem failures_are_isolated_sharedWorkspace :
    ∃ survey other,
      config.survey (sharedWorkspace.withContent ["src", "a.rs"] qualifyingText.toUTF8) =
        .ok survey ∧
      config.survey (sharedWorkspace.withContent ["src", "a.rs"] ⟨#[255]⟩) = .ok other ∧
      survey.aggregation = sharedAggregation 2 [⟨"A", "crate::a", ""⟩] [] ∧
      other.aggregation = sharedAggregation 1 []
        [⟨⟨"src/a.rs"⟩, "stream did not contain valid UTF-8"⟩] ∧
      survey.discovery = other.discovery ∧
      survey.aggregation.AgreesBeyond other.aggregation (some "crate::a") (some ⟨"src/a.rs"⟩) ∧
      ∀ kind, survey.aggregation.override? kind = other.aggregation.override? kind := by
  rcases Config.failures_are_isolated wellFormed_sharedWorkspace isNamed_sharedWorkspace
    (show config.validate sharedWorkspace = .ok () by decide +kernel)
    (show sharedWorkspace.tree.entry? ["src", "a.rs"] = some (.file _) from rfl)
    qualifyingText.toUTF8 ⟨#[255]⟩ with
    ⟨directory, survey, other, located, surveyed, surveyedOther, sameFiles, agrees, overrides⟩
  have atRoot : sharedWorkspace.locate config.baseDirectory true = .ok [] := by decide
  rcases Except.ok.inj (located.symm.trans atRoot) with rfl
  have module : config.moduleAt? [] ["src", "a.rs"] = some "crate::a" := by decide
  have relative : (config.fileAt? [] ["src", "a.rs"]).map FoundFile.relative =
      some ⟨"src/a.rs"⟩ := by decide
  rcases aggregations_shared with ⟨found, foundOther⟩
  rw [surveyed] at found
  rw [surveyedOther] at foundOther
  rw [module, relative] at agrees
  refine ⟨survey, other, surveyed, surveyedOther, Option.some.inj found,
    Option.some.inj foundOther, sameFiles, agrees, ?_⟩
  intro kind
  apply overrides
  · cases kind <;> decide +kernel
  · cases kind <;> decide

end Sample

end Registrar
