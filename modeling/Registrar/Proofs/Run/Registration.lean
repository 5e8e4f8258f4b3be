import Registrar.Proofs.Aggregation
import Registrar.Proofs.Run.Stability
import Registrar.Proofs.Source.Names
import Registrar.Proofs.Workspace.Slashes

/-!
# What a run registers

A run reports exactly the declarations that qualify: each that stands at the top of a file which may
be a source, in the module of that file, and keeps the contract. None is reported twice, because the
name of a declaration holds no colon, so that a qualified name tells the name and the module. A file
whose path is too long cannot be opened, and what it declares is missed.
-/

namespace Registrar

/-- Whether a text of a module declares a type of the given name that can be registered. -/
structure Scope.Registers (scope : Scope) (module text name : String) : Prop where
  notGenerated : Header.isGenerated text.toList = false
  qualifies : ∃ items item declaration candidate,
    Source.items? text.toList = some items ∧ item ∈ items ∧ item.Declares name ∧
      MarkedDeclaration.ofItem? scope.markers items item = some declaration ∧
      scope.contract.judge module declaration = .qualifies candidate

/-- Whether names lead from the base directory, which lies at the given location, to a file that
holds a module in which a type of the given name can be registered. -/
structure Config.Qualifies (config : Config) (workspace : Workspace) (directory names : Location)
    (module name : String) : Prop where
  held : workspace.tree.HoldsSource directory names
  admitted : config.Admits names
  inModule : ModulePath.ofFile? config.sourceRootPath
    (FoundFile.below config.baseDirectory names).path config.cratePrefix = some module
  registers : ∃ text, (FoundFile.below config.baseDirectory names).path.IsOpenable ∧
    workspace.tree.entry? (directory ++ names) = some (.file text.toUTF8) ∧
      config.scope.Registers module text name

theorem declares_of_ofItem? {markers : MarkerNames} {items : List Source.Item}
    {item : Source.Item} {declaration : MarkedDeclaration}
    (found : MarkedDeclaration.ofItem? markers items item = some declaration) :
    item.Declares declaration.name := by
  unfold MarkedDeclaration.ofItem? at found
  split at found
  · rename_i kind attributes name generics
    dsimp only at found
    split at found
    · cases found
    · rcases found with ⟨⟩
      exact ⟨kind, attributes, generics, rfl⟩
  · cases found

theorem Source.Item.Declares.unique {item : Source.Item} {left right : String}
    (first : item.Declares left) (second : item.Declares right) : left = right := by
  rcases first with ⟨_, _, _, rfl⟩
  rcases second with ⟨_, _, _, ⟨⟩⟩
  rfl

theorem candidate_of_judge {names : ContractNames} {module : String}
    {declaration : MarkedDeclaration} {candidate : Candidate}
    (verdict : names.judge module declaration = .qualifies candidate) :
    candidate.name = declaration.name ∧ candidate.module = module := by
  unfold ContractNames.judge at verdict
  split at verdict
  · cases verdict
  · split at verdict
    · rcases verdict with ⟨⟩
      exact ⟨rfl, rfl⟩
    · cases verdict

theorem mem_candidates_ofDeclarations {contract : ContractNames} {module : String}
    {declarations : List MarkedDeclaration} {candidate : Candidate} :
    candidate ∈ (Findings.ofDeclarations contract module declarations).candidates ↔
      ∃ declaration ∈ declarations, contract.judge module declaration = .qualifies candidate := by
  rw [Findings.candidates, Findings.ofDeclarations, List.mem_filterMap]
  constructor
  · rintro ⟨verdict, member, isCandidate⟩
    rcases List.mem_map.1 member with ⟨declaration, inDeclarations, rfl⟩
    refine ⟨declaration, inDeclarations, ?_⟩
    split at isCandidate
    · rename_i found verdict
      rcases isCandidate with ⟨⟩
      exact verdict
    · cases isCandidate
  · rintro ⟨declaration, inDeclarations, verdict⟩
    exact ⟨_, List.mem_map_of_mem inDeclarations, by rw [verdict]⟩

namespace Scope

variable {scope : Scope} {workspace : Workspace} {module text name : String}

theorem Registers.isWordText (registers : scope.Registers module text name) :
    Source.IsWordText name := by
  rcases registers.qualifies with ⟨items, item, _, _, read, member, declares, _⟩
  exact Source.isWordText_of_mem_items? read member declares

theorem mem_candidates_examineText {file : FilePath} {candidate : Candidate} :
    candidate ∈ (ExaminedFile.mk file (scope.examineText module text)).candidates ↔
      Header.isGenerated text.toList = false ∧ ∃ items item declaration,
        Source.items? text.toList = some items ∧ item ∈ items ∧
          MarkedDeclaration.ofItem? scope.markers items item = some declaration ∧
          scope.contract.judge module declaration = .qualifies candidate := by
  rw [ExaminedFile.candidates, examineText, MarkedDeclaration.scan?]
  cases Header.isGenerated text.toList with
  | true => simp
  | false =>
    rcases Source.items? text.toList with _ | items
    · simp
    · simp only [Bool.false_eq_true, if_false, Option.map_some, true_and, Option.some.injEq]
      rw [mem_candidates_ofDeclarations]
      constructor
      · rintro ⟨declaration, member, verdict⟩
        rcases List.mem_filterMap.1 member with ⟨item, inItems, found⟩
        exact ⟨items, item, declaration, rfl, inItems, found, verdict⟩
      · rintro ⟨_, item, declaration, rfl, inItems, found, verdict⟩
        exact ⟨declaration, List.mem_filterMap.2 ⟨item, inItems, found⟩, verdict⟩

/-- The candidates in the text of a module are those that the text registers. -/
theorem mem_id_examineText {file : FilePath} {id : DeclarationId} :
    id ∈ (ExaminedFile.mk file (scope.examineText module text)).candidates.map Candidate.id ↔
      id.module = module ∧ scope.Registers module text id.name := by
  rw [List.mem_map]
  constructor
  · rintro ⟨candidate, member, rfl⟩
    rw [mem_candidates_examineText] at member
    rcases member with ⟨notGenerated, items, item, declaration, read, inItems, found, verdict⟩
    rcases candidate_of_judge verdict with ⟨sameName, sameModule⟩
    refine ⟨sameModule, notGenerated, items, item, declaration, candidate, read, inItems, ?_, found,
      verdict⟩
    rw [Candidate.id, sameName]
    exact declares_of_ofItem? found
  · rintro ⟨rfl, notGenerated, items, item, declaration, candidate, read, inItems, declares, found,
      verdict⟩
    refine ⟨candidate, ?_, ?_⟩
    · rw [mem_candidates_examineText]
      exact ⟨notGenerated, items, item, declaration, read, inItems, found, verdict⟩
    · rcases candidate_of_judge verdict with ⟨sameName, sameModule⟩
      have sameDeclared := (declares_of_ofItem? found).unique declares
      rw [Candidate.id, sameName, sameModule, sameDeclared]

/-- The candidates of a file are those that its text registers in its module. -/
theorem mem_id_examine {file : FoundFile} {id : DeclarationId} :
    id ∈ (ExaminedFile.mk file.relative
        (scope.examine workspace file)).candidates.map Candidate.id ↔
      ModulePath.ofFile? scope.sourceRoot file.path scope.cratePrefix = some id.module ∧
        ∃ text, workspace.readText file.path = .ok text ∧
          scope.Registers id.module text id.name := by
  rw [examine]
  rcases ModulePath.ofFile? scope.sourceRoot file.path scope.cratePrefix with _ | module
  · simp [ExaminedFile.candidates]
  · rcases read : workspace.readText file.path with cause | text
    · simp [ExaminedFile.candidates]
    · simp only [mem_id_examineText, Option.some.injEq, Except.ok.injEq, exists_eq_left']
      constructor
      · rintro ⟨rfl, registers⟩
        exact ⟨rfl, registers⟩
      · rintro ⟨rfl, registers⟩
        exact ⟨rfl, registers⟩

end Scope

theorem Workspace.readText_below_eq_ok_iff {workspace : Workspace} {base : FilePath}
    {directory names : Location} {content : ByteArray} {text : String}
    (wellFormed : workspace.tree.WellFormed) (named : workspace.tree.IsNamed)
    (located : workspace.locate base true = .ok directory)
    (isDirectory : workspace.tree.entry? directory = some .directory)
    (present : workspace.tree.entry? (directory ++ names) = some (.file content)) :
    workspace.readText (FoundFile.below base names).path = .ok text ↔
      (FoundFile.below base names).path.IsOpenable ∧ content = text.toUTF8 := by
  have namesNamed := named.isFileName_of_mem present
  by_cases openable : (FoundFile.below base names).path.IsOpenable
  · rw [readText, read, locate_below wellFormed located isDirectory namesNamed present (by simp)
      openable]
    simp only [present, openable, true_and]
    rw [← Text.fromUTF8?_eq_some_iff]
    rcases String.fromUTF8? content with _ | found <;> simp
  · rcases exists_cause_of_not_isOpenable openable with ⟨cause, fails⟩
    rw [readText, read, fails]
    simp [openable]

theorem Workspace.IsPlain.isSegmentName_of_mem {workspace : Workspace} {directory names : Location}
    {entry : Entry} (plain : workspace.IsPlain)
    (present : workspace.tree.entry? (directory ++ names) = some entry) :
    ∀ name ∈ names, IsSegmentName name := by
  intro name member
  exact (FileTree.IsNamed.isFileName_of_mem plain.tree.named present name member).toIsSegmentName

theorem takeWhile_reverse_append_colon {name : String} (colonless : ':' ∉ name.toList)
    (rest : List Char) :
    (name.toList.reverse ++ ':' :: rest).takeWhile (· ≠ ':') = name.toList.reverse := by
  rw [List.takeWhile_append_of_pos, List.takeWhile_cons_of_neg (by simp), List.append_nil]
  intro character member
  have differs : character ≠ ':' := by
    rintro rfl
    exact colonless (List.mem_reverse.1 member)
  simpa using differs

/-- A name without colons is told apart from the module in front of it. -/
theorem eq_of_qualified_eq {leftModule rightModule leftName rightName : String}
    (left : ':' ∉ leftName.toList) (right : ':' ∉ rightName.toList)
    (same : leftModule ++ "::" ++ leftName = rightModule ++ "::" ++ rightName) :
    leftModule = rightModule ∧ leftName = rightName := by
  have reversed : leftName.toList.reverse ++ ':' :: (':' :: leftModule.toList.reverse) =
      rightName.toList.reverse ++ ':' :: (':' :: rightModule.toList.reverse) := by
    have characters := congrArg (fun text => text.toList.reverse) same
    simpa using characters
  have names : leftName = rightName := by
    have cut := congrArg (List.takeWhile (· ≠ ':')) reversed
    rw [takeWhile_reverse_append_colon left, takeWhile_reverse_append_colon right] at cut
    exact String.toList_inj.1 (List.reverse_inj.1 cut)
  subst names
  refine ⟨?_, rfl⟩
  have modules := List.append_cancel_left reversed
  simpa [String.toList_inj] using modules

namespace Config

variable {config : Config} {workspace : Workspace} {circumstances : Circumstances}
  {mode : RunMode} {report : Report}

/-- What a run reports was aggregated by its survey, in every mode. -/
theorem declarations_of_run (ran : (config.run workspace circumstances mode).report = .ok report) :
    ∃ survey, config.survey workspace = .ok survey ∧
      report.declarations = survey.aggregation.candidates.map Candidate.qualifiedName := by
  rcases report_of_run ran with ⟨survey, surveyed, outcome, collisions, leftover, rendered, rfl⟩
  exact ⟨survey, surveyed, rfl⟩

/-- The identities that a survey takes together are those of the declarations that qualify. -/
theorem mem_id_survey_iff {survey : Survey} {directory : Location} {id : DeclarationId}
    (plain : workspace.IsPlain) (accepted : config.IsAccepted workspace)
    (relative : config.outputDirectory.isAbsolute = false)
    (descends : .parent ∉ config.outputDirectory.innerComponents)
    (located : workspace.locate config.baseDirectory true = .ok directory)
    (surveyed : config.survey workspace = .ok survey) :
    id ∈ survey.aggregation.candidates.map Candidate.id ↔
      ∃ names, config.Qualifies workspace directory names id.module id.name := by
  rcases accepted.exists_baseDirectory with ⟨found, foundLocated, isDirectory⟩
  rw [located, Except.ok.injEq] at foundLocated
  subst foundLocated
  rw [FileTree.isDirectory_iff] at isDirectory
  rcases exists_selector surveyed with ⟨selector, selects⟩
  rcases survey_eq_ok selects located isDirectory with
    ⟨other, surveyedOther, files, examined⟩
  rw [surveyed, Except.ok.injEq] at surveyedOther
  subst surveyedOther
  have readable := fun names content text =>
    @Workspace.readText_below_eq_ok_iff _ _ _ names content text plain.tree.wellFormed
      plain.tree.named located isDirectory
  rw [Survey.aggregation, Aggregation.mem_id_ofFiles, examined, files, Scope.examineAll]
  simp only [List.map_map, List.mem_map, List.mem_filter]
  constructor
  · rintro ⟨_, ⟨names, ⟨inTree, selected⟩, rfl⟩, member⟩
    have held := FileTree.holdsSource_of_mem_filesBelow plain.tree.wellFormed inTree
    rcases held.isFile with ⟨content, present⟩
    rcases Scope.mem_id_examine.1 (List.mem_map.2 member) with ⟨inModule, text, read, registers⟩
    rcases (readable names content text present).1 read with ⟨openable, rfl⟩
    have admitted := (select_eq_selected_iff_admits accepted relative descends selects held.nonempty
      (plain.isSegmentName_of_mem present)).1 (by simpa using selected)
    exact ⟨names, held, admitted, inModule, text, openable, present, registers⟩
  · rintro ⟨names, held, admitted, inModule, text, openable, present, registers⟩
    have read := (readable names text.toUTF8 text present).2 ⟨openable, rfl⟩
    have named := plain.isSegmentName_of_mem present
    have selected := (select_eq_selected_iff_admits accepted relative descends selects held.nonempty
      named).2 admitted
    have found := (FileTree.mem_filesBelow plain.tree.wellFormed).2
      ⟨held, FoundFile.length_directory_lt_of_isOpenable named openable⟩
    refine ⟨_, ⟨names, ⟨found, ?_⟩, rfl⟩, ?_⟩
    · simpa using selected
    · exact List.mem_map.1 (Scope.mem_id_examine.2 ⟨inModule, text, read, registers⟩)

/-- The registered set is the qualifying set. In a tree without links, whatever the mode, a run
that succeeds reports a qualified name if and only if some file below the base directory holds a
type of that name and module that qualifies, and it reports each only once. -/
theorem declarations_are_qualifying (plain : workspace.IsPlain)
    (valid : config.validate workspace = .ok ())
    (relative : config.outputDirectory.isAbsolute = false)
    (descends : .parent ∉ config.outputDirectory.innerComponents)
    (ran : (config.run workspace circumstances mode).report = .ok report) :
    ∃ directory, workspace.locate config.baseDirectory true = .ok directory ∧
      report.declarations.Nodup ∧
      (∀ text ∈ report.declarations, ∃ module name, ':' ∉ name.toList ∧
        text = module ++ "::" ++ name) ∧
      ∀ module name, ':' ∉ name.toList → (module ++ "::" ++ name ∈ report.declarations ↔
        ∃ names, config.Qualifies workspace directory names module name) := by
  have accepted := isAccepted_of_validate valid
  rcases accepted.exists_baseDirectory with ⟨directory, located, isDirectory⟩
  rcases declarations_of_run ran with ⟨survey, surveyed, declarations⟩
  have qualifying := fun id =>
    @mem_id_survey_iff _ _ _ _ id plain accepted relative descends located surveyed
  have noColon : ∀ candidate ∈ survey.aggregation.candidates, ':' ∉ candidate.name.toList := by
    intro candidate member
    rcases (qualifying candidate.id).1 (List.mem_map_of_mem member) with ⟨names, qualifies⟩
    rcases qualifies.registers with ⟨text, _, _, registers⟩
    exact registers.isWordText.colon_not_mem
  refine ⟨directory, located, ?_, ?_, ?_⟩
  · have distinct := Aggregation.nodup_id_ofFiles survey.examined
    rw [declarations, List.Nodup, List.pairwise_map]
    rw [List.Nodup, List.pairwise_map] at distinct
    apply distinct.imp_of_mem
    intro left right leftMember rightMember differs same
    rcases eq_of_qualified_eq (noColon left leftMember) (noColon right rightMember) same with
      ⟨sameModule, sameName⟩
    apply differs
    rw [Candidate.id, Candidate.id, sameModule, sameName]
  · intro text member
    rw [declarations] at member
    rcases List.mem_map.1 member with ⟨candidate, inCandidates, rfl⟩
    exact ⟨_, _, noColon candidate inCandidates, rfl⟩
  · intro module name colonless
    rw [declarations, ← qualifying ⟨name, module⟩, List.mem_map, List.mem_map]
    constructor
    · rintro ⟨candidate, member, same⟩
      rcases eq_of_qualified_eq (noColon candidate member) colonless same with
        ⟨sameModule, sameName⟩
      refine ⟨candidate, member, ?_⟩
      rw [Candidate.id, sameModule, sameName]
    · rintro ⟨candidate, member, same⟩
      rcases same with ⟨⟩
      exact ⟨candidate, member, rfl⟩

end Config

/-- The run in the small workspace registers its declaration, because the one file qualifies. -/
theorem Sample.declarations_are_qualifying_workspace :
    ∃ report, (config.run workspace circumstances .write).report = .ok report ∧
      report.declarations = ["crate::a::A"] ∧
      ∃ directory names, config.Qualifies workspace directory names "crate::a" "A" := by
  rcases run_write with ⟨report, ran, _⟩
  rcases Config.declarations_of_run ran with ⟨survey, surveyed, declarations⟩
  rcases exists_survey with ⟨other, surveyedOther, found⟩
  rw [surveyed, Except.ok.injEq] at surveyedOther
  subst surveyedOther
  rw [found] at declarations
  rcases Config.declarations_are_qualifying isPlain_workspace validate_workspace (by decide)
    (by decide) ran with ⟨directory, _, _, _, qualifying⟩
  refine ⟨report, ran, declarations, directory, ?_⟩
  apply (qualifying "crate::a" "A" (by decide)).1
  rw [declarations]
  exact List.mem_singleton.2 rfl

namespace Sample

/-- The small configuration, with the current directory under a longer name. -/
def slashedConfig (slashes : Nat) : Config :=
  { config with baseDirectory := slashedDirectory slashes }

/-- The path of a file below the directory may be too long. -/
theorem not_isOpenable_slashed {slashes : Nat} (long : Workspace.pathLimit ≤ slashes + 8) :
    ¬(FoundFile.below (slashedDirectory slashes) ["src", "b.rs"]).path.IsOpenable := by
  intro openable
  have short := openable.short
  have first := @FilePath.le_utf8ByteSize_join (slashedDirectory slashes) ⟨"src"⟩ (by decide)
  have second := @FilePath.le_utf8ByteSize_join ((slashedDirectory slashes).join ⟨"src"⟩) ⟨"b.rs"⟩
    (by decide)
  have sourceSize : ("src" : String).utf8ByteSize = 3 := by decide
  have fileSize : ("b.rs" : String).utf8ByteSize = 4 := by decide
  simp only [FoundFile.below, List.foldl_cons, List.foldl_nil] at short
  rw [utf8ByteSize_slashedDirectory, sourceSize] at first
  rw [fileSize] at second
  omega

theorem isAccepted_slashedConfig {slashes : Nat} (short : slashes + 1 < Workspace.pathLimit)
    {workspace : Workspace} (atRoot : workspace.directory = []) :
    (slashedConfig slashes).IsAccepted workspace := by
  have located : workspace.locate (slashedConfig slashes).baseDirectory true = .ok [] :=
    locate_slashedDirectory short atRoot
  have accepted := Config.isAccepted_of_validate validate_workspace
  have nonempty := (isOpenable_slashedDirectory short).nonempty
  have sourceRoot : (slashedConfig slashes).sourceRootPath.components =
      [.current, .name "src"] := by
    have relative : config.sourceRoot.isAbsolute = false := by decide
    rw [Config.sourceRootPath, Config.resolve, slashedConfig,
      FilePath.components_join nonempty relative, components_slashedDirectory]
    rfl
  have outputDirectory : (slashedConfig slashes).outputDirectoryPath.components =
      [.current, .name "src", .name "generated"] := by
    have relative : config.outputDirectory.isAbsolute = false := by decide
    rw [Config.outputDirectoryPath, Config.resolve, slashedConfig,
      FilePath.components_join nonempty relative, components_slashedDirectory]
    rfl
  exact { accepted with
    baseExists := by rw [Workspace.pathExists, located]
    baseIsDirectory := by rw [Workspace.isDirectory, located]; rfl
    separate := Or.inr (by rw [FilePath.isUnder, sourceRoot, outputDirectory]; rfl) }

theorem ofFile?_slashed {slashes : Nat} (short : slashes + 1 < Workspace.pathLimit) :
    ModulePath.ofFile? (slashedConfig slashes).scope.sourceRoot
      (FoundFile.below (slashedDirectory slashes) ["src", "b.rs"]).path "crate" =
        some "crate::b" := by
  have nonempty := (isOpenable_slashedDirectory short).nonempty
  have joined : (FoundFile.below (slashedDirectory slashes) ["src", "b.rs"]).path =
      (slashedConfig slashes).scope.sourceRoot.join ⟨"b.rs"⟩ := rfl
  have rootNonempty : (slashedConfig slashes).scope.sourceRoot.text ≠ "" :=
    @FilePath.text_join_ne_empty _ config.sourceRoot nonempty (by decide)
  rw [ModulePath.ofFile?, joined, FilePath.componentsBelow?_join rootNonempty (by decide)]
  decide

/-- A file that lies in a module may not be readable. -/
theorem examine_slashed {slashes : Nat} (short : slashes + 1 < Workspace.pathLimit)
    (long : Workspace.pathLimit ≤ slashes + 8) (workspace : Workspace) :
    ∃ error, (slashedConfig slashes).scope.examine workspace
      (FoundFile.below (slashedDirectory slashes) ["src", "b.rs"]) = .failed error := by
  rcases Workspace.exists_cause_of_not_isOpenable (not_isOpenable_slashed long) with ⟨cause, fails⟩
  refine ⟨cause.message, ?_⟩
  have isStandard : (slashedConfig slashes).scope.cratePrefix = "crate" := rfl
  rw [Scope.examine, isStandard, ofFile?_slashed short, Workspace.readText, Workspace.read, fails]

theorem select_slashed {slashes : Nat} {selector : Selector}
    (short : slashes + 1 < Workspace.pathLimit)
    (selects : (slashedConfig slashes).selector = .ok selector) :
    selector.select ⟨"/".intercalate ["src", "b.rs"]⟩ = .selected := by
  have relative : config.outputDirectory.isAbsolute = false := by decide
  have accepted : (slashedConfig slashes).IsAccepted workspace := isAccepted_slashedConfig short rfl
  rcases Config.selector_eq_ok accepted relative selects with ⟨sets, read, rfl⟩
  have selected : (config.sourceSets.mapM Selector.readSet).toOption.map (fun sets =>
      (Selector.withOutput sets config.outputDirectory.innerComponents config.outputFile).select
        ⟨"/".intercalate ["src", "b.rs"]⟩) = some .selected := by
    decide +kernel
  have readAlike : config.sourceSets.mapM Selector.readSet = .ok sets := read
  rw [readAlike] at selected
  exact Option.some.inj selected

/-- Where a single file is found, with too long a path, the survey records a failure and nothing
else. -/
theorem exists_survey_slashedConfig {slashes : Nat} (short : slashes + 1 < Workspace.pathLimit)
    (long : Workspace.pathLimit ≤ slashes + 8) {workspace : Workspace}
    (atRoot : workspace.directory = [])
    (single : workspace.tree.filesBelow (slashedDirectory slashes).bytes [] = [["src", "b.rs"]]) :
    ∃ survey file error, (slashedConfig slashes).survey workspace = .ok survey ∧
      survey.examined = [⟨file, .failed error⟩] := by
  have accepted : (slashedConfig slashes).IsAccepted workspace :=
    isAccepted_slashedConfig short atRoot
  rcases accepted.exists_selector with ⟨selector, selects⟩
  rcases Config.survey_eq_ok selects (locate_slashedDirectory short atRoot) rfl with
    ⟨survey, surveyed, files, examined⟩
  rcases examine_slashed short long workspace with ⟨error, failed⟩
  refine ⟨survey, (FoundFile.below (slashedDirectory slashes) ["src", "b.rs"]).relative, error,
    surveyed, ?_⟩
  have kept : [["src", "b.rs"]].filter (fun names =>
      selector.select ⟨"/".intercalate names⟩ == .selected) = [["src", "b.rs"]] := by
    rw [List.filter_eq_self]
    intro names member
    rcases List.mem_singleton.1 member with rfl
    rw [select_slashed short selects]
    rfl
  have atBase : (slashedConfig slashes).baseDirectory = slashedDirectory slashes := by
    rw [slashedConfig]
  rw [atBase, single, kept, List.map_singleton] at files
  rw [examined, files, Scope.examineAll, List.map_singleton, failed]

/-- The text of the source file in the small workspace. -/
def qualifyingText : String :=
  "#[encodable]struct A;" ++
    "impl A\x7bfn to_map(&self)->HashMap\x7b\x7dfn from_map(m:HashMap)->A\x7b\x7d\x7d"

/-- A workspace whose only source file has that text. -/
def distantWorkspace : Workspace :=
  ⟨⟨[(["src"], .directory), (["src", "b.rs"], .file qualifyingText.toUTF8)]⟩, []⟩

theorem isPlain_distantWorkspace : distantWorkspace.IsPlain := by
  refine ⟨FileTree.isPlain_of_entries ⟨by decide, ?_⟩ (by decide) ?_, rfl⟩
  · intro entry member
    simp only [distantWorkspace, List.mem_cons, List.not_mem_nil, or_false] at member
    rcases member with rfl | rfl <;> exact ⟨by simp, rfl⟩
  · simp [distantWorkspace]

/-- What comes of a text does not depend on the base directory. -/
theorem examineText_slashed (slashes : Nat) (module text : String) :
    (slashedConfig slashes).scope.examineText module text =
      config.scope.examineText module text := rfl

theorem registers_qualifyingText (slashes : Nat) :
    (slashedConfig slashes).scope.Registers "crate::b" qualifyingText "A" := by
  have found : (ExaminedFile.mk ⟨""⟩
      (config.scope.examineText "crate::b" qualifyingText)).candidates.map Candidate.id =
        [⟨"A", "crate::b"⟩] := by
    decide +kernel
  rw [← examineText_slashed slashes] at found
  exact (Scope.mem_id_examineText.1 (found ▸ List.mem_singleton.2 rfl)).2

/-- Whether a run misses a declaration that qualifies in all but the path of its file, which
cannot be opened. -/
structure Misses (config : Config) (workspace : Workspace) (names : Location)
    (module name : String) : Prop where
  plain : workspace.IsPlain
  valid : config.validate workspace = .ok ()
  relative : config.outputDirectory.isAbsolute = false
  descends : .parent ∉ config.outputDirectory.innerComponents
  located : workspace.locate config.baseDirectory true = .ok []
  held : workspace.tree.HoldsSource [] names
  admitted : config.Admits names
  inModule : ModulePath.ofFile? config.sourceRootPath
    (FoundFile.below config.baseDirectory names).path config.cratePrefix = some module
  registers : ∃ text, workspace.tree.entry? names = some (.file text.toUTF8) ∧
    config.scope.Registers module text name
  missed : ∃ report, (config.run workspace circumstances .dryRun).report = .ok report ∧
    module ++ "::" ++ name ∉ report.declarations

theorem holdsSource_distantWorkspace :
    distantWorkspace.tree.HoldsSource [] ["src", "b.rs"] where
  nonempty := List.cons_ne_nil _ _
  visited := by decide
  isFile := ⟨qualifyingText.toUTF8, rfl⟩

/-- The only file is found below the directory, as long as the directory it lies in can be
opened. -/
theorem filesBelow_slashed {slashes : Nat} (opens : slashes + 5 < Workspace.pathLimit) :
    distantWorkspace.tree.filesBelow (slashedDirectory slashes).bytes [] = [["src", "b.rs"]] := by
  apply FileTree.filesBelow_eq_singleton isPlain_distantWorkspace.tree.wellFormed
    holdsSource_distantWorkspace (length_joinTo_source_lt opens)
  intro names held
  rcases held.mem_entries with ⟨content, member⟩
  simp only [distantWorkspace, List.mem_cons, List.not_mem_nil, or_false, Prod.mk.injEq,
    reduceCtorEq, and_false, false_or] at member
  exact member.1

/-- A declaration that qualifies is not registered where the path of its file is too long. -/
theorem misses_of_long_path {slashes : Nat} (opens : slashes + 5 < Workspace.pathLimit)
    (long : Workspace.pathLimit ≤ slashes + 8) :
    Misses (slashedConfig slashes) distantWorkspace ["src", "b.rs"] "crate::b" "A" := by
  have short : slashes + 1 < Workspace.pathLimit := by omega
  have held := holdsSource_distantWorkspace
  have accepted : (slashedConfig slashes).IsAccepted distantWorkspace :=
    isAccepted_slashedConfig short rfl
  have relative : config.outputDirectory.isAbsolute = false := by decide
  have descends : .parent ∉ config.outputDirectory.innerComponents := by decide
  have present : distantWorkspace.tree.entry? ([] ++ ["src", "b.rs"]) =
      some (.file qualifyingText.toUTF8) := rfl
  rcases accepted.exists_selector with ⟨selector, selects⟩
  have admitted := (Config.select_eq_selected_iff_admits accepted relative descends selects
    held.nonempty (isPlain_distantWorkspace.isSegmentName_of_mem present)).1
      (select_slashed short selects)
  rcases exists_survey_slashedConfig short long rfl (filesBelow_slashed opens) with
    ⟨survey, file, error, surveyed, examined⟩
  have nothing : survey.aggregation.candidates = [] := by
    rw [Survey.aggregation, examined]
    rfl
  have empty : survey.aggregation.isEmpty = true := by
    rw [Survey.aggregation, examined]
    rfl
  rcases Config.run_of_isEmpty surveyed empty circumstances .dryRun with ⟨_, report, ran, _⟩
  rcases Config.declarations_of_run ran with ⟨other, surveyedOther, declarations⟩
  rw [surveyed, Except.ok.injEq] at surveyedOther
  subst surveyedOther
  have missed : "crate::b" ++ "::" ++ "A" ∉ report.declarations := by
    rw [declarations, nothing]
    exact List.not_mem_nil
  exact ⟨isPlain_distantWorkspace, Config.validate_of_isAccepted accepted, relative, descends,
    locate_slashedDirectory short rfl, held, admitted, ofFile?_slashed short,
    ⟨qualifyingText, present, registers_qualifyingText slashes⟩, report, ran, missed⟩

theorem misses_for_long_path :
    Misses (slashedConfig 4089) distantWorkspace ["src", "b.rs"] "crate::b" "A" :=
  misses_of_long_path (by decide) (by decide)

end Sample

end Registrar
