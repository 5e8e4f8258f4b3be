import Registrar.Proofs.Artifact.ScanOrder
import Registrar.Proofs.Contract
import Registrar.Proofs.Run.Modes
import Registrar.Proofs.Run.Registration

/-!
# The accounts of a run balance

Each file that a run reads is counted once, by what came of it. Each declaration that is marked as
encodable in a file that is scanned is either registered or recorded as rejected; so where no two of
them share a module and a name, none is lost and none is counted twice. This is settled for one file
and one verdict, and carried over to all files of a run by their order.
-/

namespace Registrar

/-- Where a declaration that is marked as encodable stands. -/
structure MarkedPlace where
  file : FilePath
  id : DeclarationId
  deriving DecidableEq, Repr

/-- Whether a record tells of the declaration at a place, with a reason why it is rejected. -/
structure RejectionRecord.TellsOf (record : RejectionRecord) (place : MarkedPlace) : Prop where
  file : record.file = place.file
  declaration : record.declaration = place.id.name
  reasoned : record.reasons ≠ []

/-- The name of a declaration that carries a marker, if an item is one. -/
def Source.Item.markedName? (marker : String) : Source.Item → Option String
  | .declaration _ attributes name _ =>
    if attributes.any (MarkedDeclaration.carries marker) then some name else none
  | _ => none

namespace Scope

variable (scope : Scope) (workspace : Workspace) (file : FoundFile)

/-- The module and the items of a file that is scanned: it has a module, it can be read, it does not
say that it is generated, and it is a source file. -/
def scannedItems? : Option (String × List Source.Item) := do
  let module ← ModulePath.ofFile? scope.sourceRoot file.path scope.cratePrefix
  let text ← (workspace.readText file.path).toOption
  if Header.isGenerated text.toList then none
  else (Source.items? text.toList).map fun items => (module, items)

/-- The declarations that are marked as encodable in a file that is scanned. -/
def markedPlaces : List MarkedPlace :=
  match scope.scannedItems? workspace file with
  | some (module, items) =>
    (items.filterMap (Source.Item.markedName? scope.markers.encodable)).map fun name =>
      ⟨file.relative, ⟨name, module⟩⟩
  | none => []

end Scope

/-- Whether a report accounts for the files that a run reads, for prior output that it leaves out
and for every declaration that is marked as encodable. -/
structure Report.Balances (report : Report) (scope : Scope) (workspace : Workspace)
    (read priorOutputs : List FoundFile) : Prop where
  matched : report.filesMatched = read.length
  /-- Each file that is read is counted by what came of it. -/
  files : report.filesMatched = report.statistics.filesScanned +
    report.statistics.filesNotApplicable + report.statistics.priorOutputsSkipped +
    report.statistics.failures.length
  scanned : report.statistics.filesScanned =
    (read.filter fun file => (scope.scannedItems? workspace file).isSome).length
  skipped : report.priorOutputsSkipped =
    report.statistics.priorOutputsSkipped + priorOutputs.length
  /-- A marked declaration has a record of its own, or its qualified name is reported. -/
  judged : ∃ refused accepted,
    (refused ++ accepted).Perm (read.flatMap (scope.markedPlaces workspace)) ∧
      List.Forall₂ RejectionRecord.TellsOf report.statistics.rejections refused ∧
      ∀ place ∈ accepted, place.id.module ++ "::" ++ place.id.name ∈ report.declarations
  counted : ((read.flatMap (scope.markedPlaces workspace)).map MarkedPlace.id).Nodup →
    report.declarations.length + report.statistics.rejections.length =
      (read.flatMap (scope.markedPlaces workspace)).length

namespace Verdict

/-- The candidate that qualifies by a verdict, if one does. -/
def candidate? : Verdict → Option Candidate
  | qualifies candidate => some candidate
  | _ => none

/-- The rejection that a verdict is, if it is one. -/
def rejection? : Verdict → Option Rejection
  | rejected rejection => some rejection
  | _ => none

end Verdict

theorem Findings.candidates_eq (findings : Findings) :
    findings.candidates = findings.verdicts.filterMap Verdict.candidate? := rfl

theorem Findings.rejections_eq (findings : Findings) :
    findings.rejections = findings.verdicts.filterMap Verdict.rejection? := rfl

/-- A marked declaration with the verdict on it. -/
structure JudgedPlace where
  place : MarkedPlace
  verdict : Verdict

namespace JudgedPlace

/-- The candidate that a declaration is, if it meets the contract. -/
def candidate? (judged : JudgedPlace) : Option Candidate := judged.verdict.candidate?

/-- The record of the rejection of a declaration, if it is rejected. -/
def record? (judged : JudgedPlace) : Option RejectionRecord :=
  judged.verdict.rejection?.map (Aggregation.recordOf judged.place.file)

/-- Whether a declaration is either accepted by its identity or rejected for a reason. -/
inductive IsDecided (judged : JudgedPlace) : Prop
  | accepted (candidate : Candidate) (found : judged.candidate? = some candidate)
      (unrecorded : judged.record? = none) (sameId : candidate.id = judged.place.id)
  | refused (record : RejectionRecord) (unfound : judged.candidate? = none)
      (recorded : judged.record? = some record) (tells : record.TellsOf judged.place)

variable {judged : List JudgedPlace} (decided : ∀ one ∈ judged, one.IsDecided)

include decided

/-- The rejected declarations have one record each, in their order. -/
theorem forall₂_record? : List.Forall₂ RejectionRecord.TellsOf (judged.filterMap record?)
    ((judged.filter fun one => one.candidate?.isNone).map JudgedPlace.place) := by
  induction judged with
  | nil => exact .nil
  | cons first others ih =>
    have later := ih fun one member => decided one (List.mem_cons_of_mem _ member)
    rcases decided first List.mem_cons_self with
      ⟨candidate, found, unrecorded, _⟩ | ⟨record, unfound, recorded, tells⟩
    · rwa [List.filterMap_cons_none unrecorded, List.filter_cons_of_neg (by simp [found])]
    · rw [List.filterMap_cons_some recorded, List.filter_cons_of_pos (by simp [unfound]),
        List.map_cons]
      exact .cons tells later

/-- The identities of the accepted declarations are those of their candidates. -/
theorem map_id_candidate? : (judged.filterMap candidate?).map Candidate.id =
    (judged.filter fun one => one.candidate?.isSome).map fun one => one.place.id := by
  induction judged with
  | nil => rfl
  | cons first others ih =>
    have later := ih fun one member => decided one (List.mem_cons_of_mem _ member)
    rcases decided first List.mem_cons_self with
      ⟨candidate, found, _, sameId⟩ | ⟨record, unfound, _, _⟩
    · rw [List.filterMap_cons_some found, List.filter_cons_of_pos (by simp [found]),
        List.map_cons, List.map_cons, sameId, later]
    · rw [List.filterMap_cons_none unfound, List.filter_cons_of_neg (by simp [unfound]), later]

omit decided in
/-- Declarations are those that are not accepted and those that are. -/
theorem map_place_perm (judged : List JudgedPlace) :
    ((judged.filter fun one => one.candidate?.isNone).map JudgedPlace.place ++
      (judged.filter fun one => one.candidate?.isSome).map JudgedPlace.place).Perm
      (judged.map JudgedPlace.place) := by
  have split := List.filter_append_perm (fun one : JudgedPlace => one.candidate?.isNone) judged
  simp only [Option.not_isNone] at split
  rw [← List.map_append]
  exact split.map _

/-- Every declaration counts once, as accepted or as rejected. -/
theorem length_candidate?_add_record? :
    (judged.filterMap candidate?).length + (judged.filterMap record?).length = judged.length := by
  have records := (forall₂_record? decided).length_eq
  have candidates := congrArg List.length (map_id_candidate? decided)
  have whole := (map_place_perm judged).length_eq
  simp only [List.length_map, List.length_append] at records candidates whole
  omega

end JudgedPlace

namespace ContractNames

variable {names : ContractNames} {module : String} {declaration : MarkedDeclaration}

/-- A declaration that is not marked as encodable gets no verdict. -/
theorem judge_of_isNone (unmarked : declaration.encodable = none) :
    names.judge module declaration = .notApplicable := by
  rw [judge, unmarked]

/-- A declaration that is marked as encodable is accepted as what it is called, or rejected. -/
theorem isDecided_judge (file : FilePath) (marked : declaration.encodable.isSome = true) :
    (JudgedPlace.mk ⟨file, ⟨declaration.name, module⟩⟩
      (names.judge module declaration)).IsDecided := by
  rcases Option.isSome_iff_exists.1 marked with ⟨marker, isMarked⟩
  by_cases unbroken : names.violations declaration marker = []
  · rw [judge_of_violations_eq_nil isMarked unbroken]
    exact .accepted _ rfl rfl rfl
  · rw [judge_of_violations_ne_nil isMarked unbroken]
    refine .refused _ rfl rfl ⟨rfl, rfl, ?_⟩
    simpa [Aggregation.recordOf, Rejection.reasons] using unbroken

end ContractNames

namespace Source.Item

/-- What carries the marker of encodable declarations is found by the scan, under its name. -/
theorem markedName?_eq (markers : MarkerNames) (items : List Item) (item : Item) :
    item.markedName? markers.encodable =
      ((MarkedDeclaration.ofItem? markers items item).filter fun declaration =>
        declaration.encodable.isSome).map MarkedDeclaration.name := by
  cases item with
  | declaration kind attributes name generics =>
    have carried : attributes.any (MarkedDeclaration.carries markers.encodable) =
        (attributes.find? (MarkedDeclaration.carries markers.encodable)).isSome := by
      rw [Bool.eq_iff_iff, List.find?_isSome, List.any_eq_true]
    rw [markedName?, MarkedDeclaration.ofItem?, carried]
    cases attributes.find? (MarkedDeclaration.carries markers.encodable) with
    | none =>
      cases attributes.any (MarkedDeclaration.carries markers.serializer) <;>
        cases attributes.any (MarkedDeclaration.carries markers.deserializer) <;> rfl
    | some marker => rfl
  | functions owner signatures => rfl
  | other => rfl

theorem filterMap_markedName? (markers : MarkerNames) (items : List Item) :
    items.filterMap (markedName? markers.encodable) =
      ((MarkedDeclaration.ofItems markers items).filter fun declaration =>
        declaration.encodable.isSome).map MarkedDeclaration.name := by
  rw [MarkedDeclaration.ofItems, List.filter_filterMap, List.map_filterMap]
  exact List.filterMap_congr fun item _ => markedName?_eq markers items item

end Source.Item

namespace Scope

variable (scope : Scope) (workspace : Workspace) (file : FoundFile)

/-- The declarations that are marked as encodable in a file that is scanned, with the verdicts. -/
def judgedPlaces : List JudgedPlace :=
  match scope.scannedItems? workspace file with
  | some (module, items) =>
    ((MarkedDeclaration.ofItems scope.markers items).filter fun declaration =>
      declaration.encodable.isSome).map fun declaration =>
        ⟨⟨file.relative, ⟨declaration.name, module⟩⟩, scope.contract.judge module declaration⟩
  | none => []

theorem map_place_judgedPlaces :
    (scope.judgedPlaces workspace file).map JudgedPlace.place =
      scope.markedPlaces workspace file := by
  rw [judgedPlaces, markedPlaces]
  rcases scope.scannedItems? workspace file with _ | ⟨module, items⟩
  · rfl
  · simp only [Source.Item.filterMap_markedName?, List.map_map]
    rfl

theorem isDecided_of_mem_judgedPlaces {one : JudgedPlace}
    (member : one ∈ scope.judgedPlaces workspace file) : one.IsDecided := by
  unfold judgedPlaces at member
  split at member
  · rcases List.mem_map.1 member with ⟨declaration, marked, rfl⟩
    exact ContractNames.isDecided_judge file.relative (List.mem_filter.1 marked).2
  · cases member

variable {scope workspace file}

/-- A file is scanned exactly if it adds findings, which are those in its items. -/
theorem examine_eq_scanned_iff {findings : Findings} :
    scope.examine workspace file = .scanned findings ↔
      ∃ module items, scope.scannedItems? workspace file = some (module, items) ∧
        findings = Findings.ofDeclarations scope.contract module
          (MarkedDeclaration.ofItems scope.markers items) := by
  rw [examine, scannedItems?]
  rcases ModulePath.ofFile? scope.sourceRoot file.path scope.cratePrefix with _ | module
  · simp
  · rcases workspace.readText file.path with cause | text
    · simp [Except.toOption]
    · simp only [examineText, MarkedDeclaration.scan?, Except.toOption, Option.bind_eq_bind,
        Option.bind_some]
      cases Header.isGenerated text.toList with
      | true => simp
      | false =>
        rcases Source.items? text.toList with _ | items
        · simp
        · constructor
          · rintro ⟨⟩
            exact ⟨module, items, rfl, rfl⟩
          · rintro ⟨_, _, ⟨⟩, rfl⟩
            rfl

/-- What is picked from the verdicts on a file is picked from those on marked declarations. -/
theorem filterMap_verdicts {Part : Type} {pick : Verdict → Option Part}
    (judgesMarked : pick .notApplicable = none) (contract : ContractNames) (module : String)
    (declarations : List MarkedDeclaration) :
    (Findings.ofDeclarations contract module declarations).verdicts.filterMap pick =
      (declarations.filter fun declaration => declaration.encodable.isSome).filterMap
        fun declaration => pick (contract.judge module declaration) := by
  rw [Findings.ofDeclarations, List.filterMap_map, List.filterMap_filter]
  apply List.filterMap_congr
  intro declaration _
  rcases marked : declaration.encodable with _ | marker
  · simp [ContractNames.judge_of_isNone marked, judgesMarked]
  · simp

variable (scope workspace file)

/-- The candidates of a file are the marked declarations in it that are accepted. -/
theorem candidates_examine :
    (ExaminedFile.mk file.relative (scope.examine workspace file)).candidates =
      (scope.judgedPlaces workspace file).filterMap JudgedPlace.candidate? := by
  rcases scanned : scope.scannedItems? workspace file with _ | ⟨module, items⟩
  · rw [judgedPlaces, scanned, ExaminedFile.candidates]
    split
    · rename_i findings examined
      rcases examine_eq_scanned_iff.1 examined with ⟨module, items, found, _⟩
      rw [scanned] at found
      cases found
    · rfl
  · rw [judgedPlaces, scanned, examine_eq_scanned_iff.2 ⟨module, items, scanned, rfl⟩,
      ExaminedFile.candidates]
    simp only [Findings.candidates_eq, List.filterMap_map]
    exact filterMap_verdicts rfl scope.contract module _

/-- The rejections in a file are the records of the marked declarations that are rejected. -/
theorem rejections_examine :
    (ExaminedFile.mk file.relative (scope.examine workspace file)).rejections =
      (scope.judgedPlaces workspace file).filterMap JudgedPlace.record? := by
  rcases scanned : scope.scannedItems? workspace file with _ | ⟨module, items⟩
  · rw [judgedPlaces, scanned, ExaminedFile.rejections]
    split
    · rename_i findings examined
      rcases examine_eq_scanned_iff.1 examined with ⟨module, items, found, _⟩
      rw [scanned] at found
      cases found
    · rfl
  · rw [judgedPlaces, scanned, examine_eq_scanned_iff.2 ⟨module, items, scanned, rfl⟩,
      ExaminedFile.rejections]
    simp only [Findings.rejections_eq, List.filterMap_map, List.map_filterMap]
    exact filterMap_verdicts rfl scope.contract module _

theorem flatMap_candidates_examineAll (files : List FoundFile) :
    (scope.examineAll workspace files).flatMap ExaminedFile.candidates =
      (files.flatMap (scope.judgedPlaces workspace)).filterMap JudgedPlace.candidate? := by
  rw [examineAll, List.flatMap_map, List.filterMap_flatMap]
  exact List.flatMap_congr fun file _ => candidates_examine scope workspace file

theorem flatMap_rejections_examineAll (files : List FoundFile) :
    (scope.examineAll workspace files).flatMap ExaminedFile.rejections =
      (files.flatMap (scope.judgedPlaces workspace)).filterMap JudgedPlace.record? := by
  rw [examineAll, List.flatMap_map, List.filterMap_flatMap]
  exact List.flatMap_congr fun file _ => rejections_examine scope workspace file

end Scope

/-- Whether a file is scanned. -/
def ExaminedFile.isScanned (examined : ExaminedFile) : Bool :=
  match examined.examination with
  | .scanned _ => true
  | _ => false

theorem Scope.isScanned_examine (scope : Scope) (workspace : Workspace) (file : FoundFile) :
    (ExaminedFile.mk file.relative (scope.examine workspace file)).isScanned =
      (scope.scannedItems? workspace file).isSome := by
  rw [ExaminedFile.isScanned, Bool.eq_iff_iff, Option.isSome_iff_exists]
  constructor
  · intro isScanned
    split at isScanned
    · rename_i findings examined
      rcases examine_eq_scanned_iff.1 examined with ⟨module, items, scanned, _⟩
      exact ⟨_, scanned⟩
    · cases isScanned
  · rintro ⟨⟨module, items⟩, scanned⟩
    rw [examine_eq_scanned_iff.2 ⟨module, items, scanned, rfl⟩]

namespace ScanStatistics

/-- The number of files that statistics are about. -/
def files (statistics : ScanStatistics) : Nat :=
  statistics.filesScanned + statistics.filesNotApplicable + statistics.priorOutputsSkipped +
    statistics.failures.length

end ScanStatistics

namespace Aggregation

variable (aggregation : Aggregation) (examined : ExaminedFile)

/-- Each file is counted once, whatever comes of it. -/
theorem files_record :
    (aggregation.record examined).statistics.files = aggregation.statistics.files + 1 := by
  rw [record, ScanStatistics.files, ScanStatistics.files]
  cases examined.examination with
  | scanned findings =>
    simp only [absorb]
    omega
  | notApplicable reason =>
    dsimp only
    omega
  | priorOutput =>
    dsimp only
    omega
  | failed error =>
    simp only [List.length_append, List.length_singleton]
    omega

theorem filesScanned_record :
    (aggregation.record examined).statistics.filesScanned =
      aggregation.statistics.filesScanned + if examined.isScanned then 1 else 0 := by
  rw [record, ExaminedFile.isScanned]
  cases examined.examination <;> rfl

theorem files_ofFiles (files : List ExaminedFile) :
    (ofFiles files).statistics.files = files.length := by
  induction files using List.reverseRecOn with
  | nil => rfl
  | append_singleton earlier last ih =>
    rw [ofFiles, List.foldl_append, List.foldl_cons, List.foldl_nil, ← ofFiles, files_record, ih,
      List.length_append, List.length_singleton]

theorem filesScanned_ofFiles (files : List ExaminedFile) :
    (ofFiles files).statistics.filesScanned = (files.filter ExaminedFile.isScanned).length := by
  induction files using List.reverseRecOn with
  | nil => rfl
  | append_singleton earlier last ih =>
    rw [ofFiles, List.foldl_append, List.foldl_cons, List.foldl_nil, ← ofFiles,
      filesScanned_record, ih, List.filter_append, List.length_append]
    cases isScanned : last.isScanned <;> simp [isScanned]

/-- What is accepted in files is among the candidates of their aggregation. -/
theorem qualifiedName_mem_ofFiles {files : List ExaminedFile} {id : DeclarationId}
    (accepted : id ∈ (files.flatMap ExaminedFile.candidates).map Candidate.id) :
    id.module ++ "::" ++ id.name ∈ (ofFiles files).candidates.map Candidate.qualifiedName := by
  rcases List.mem_map.1 accepted with ⟨candidate, member, rfl⟩
  rcases List.mem_flatMap.1 member with ⟨examined, inFiles, inFile⟩
  have held := mem_id_ofFiles.2 ⟨examined, inFiles, List.mem_map_of_mem inFile⟩
  rcases List.mem_map.1 held with ⟨other, inAggregation, sameId⟩
  rw [← sameId]
  exact List.mem_map_of_mem inAggregation

end Aggregation

namespace Scope

variable (scope : Scope) (workspace : Workspace) (files : List FoundFile)

/-- The marked declarations in files are those on which there are verdicts. -/
theorem flatMap_markedPlaces : files.flatMap (scope.markedPlaces workspace) =
    (files.flatMap (scope.judgedPlaces workspace)).map JudgedPlace.place := by
  rw [List.map_flatMap]
  exact List.flatMap_congr fun file _ => (scope.map_place_judgedPlaces workspace file).symm

theorem isDecided_of_mem_flatMap {one : JudgedPlace}
    (member : one ∈ files.flatMap (scope.judgedPlaces workspace)) : one.IsDecided := by
  rcases List.mem_flatMap.1 member with ⟨file, _, inFile⟩
  exact scope.isDecided_of_mem_judgedPlaces workspace file inFile

theorem rejections_aggregate : (scope.aggregate workspace files).statistics.rejections =
    (files.flatMap (scope.judgedPlaces workspace)).filterMap JudgedPlace.record? := by
  rw [aggregate, Aggregation.rejections_ofFiles, flatMap_rejections_examineAll]

/-- The files that an aggregation has scanned. -/
theorem filesScanned_aggregate : (scope.aggregate workspace files).statistics.filesScanned =
    (files.filter fun file => (scope.scannedItems? workspace file).isSome).length := by
  rw [aggregate, Aggregation.filesScanned_ofFiles, examineAll, List.filter_map, List.length_map]
  exact congrArg List.length
    (List.filter_congr fun file _ => scope.isScanned_examine workspace file)

theorem files_aggregate : (scope.aggregate workspace files).statistics.files = files.length := by
  rw [aggregate, Aggregation.files_ofFiles, examineAll, List.length_map]

/-- The marked declarations in files are those that are recorded as rejected and those whose names
are among the candidates. -/
theorem exists_judged_aggregate : ∃ refused accepted,
    (refused ++ accepted).Perm (files.flatMap (scope.markedPlaces workspace)) ∧
      List.Forall₂ RejectionRecord.TellsOf
        (scope.aggregate workspace files).statistics.rejections refused ∧
      ∀ place ∈ accepted, place.id.module ++ "::" ++ place.id.name ∈
        (scope.aggregate workspace files).candidates.map Candidate.qualifiedName := by
  have decided := fun one => @isDecided_of_mem_flatMap scope workspace files one
  rw [flatMap_markedPlaces, rejections_aggregate]
  refine ⟨_, _, JudgedPlace.map_place_perm _, JudgedPlace.forall₂_record? decided, ?_⟩
  intro place member
  rcases List.mem_map.1 member with ⟨one, isAccepted, rfl⟩
  apply Aggregation.qualifiedName_mem_ofFiles
  rw [flatMap_candidates_examineAll, JudgedPlace.map_id_candidate? decided]
  exact List.mem_map_of_mem isAccepted

/-- Where no two marked declarations share an identity, each is a candidate or is recorded. -/
theorem length_aggregate
    (distinct : ((files.flatMap (scope.markedPlaces workspace)).map MarkedPlace.id).Nodup) :
    (scope.aggregate workspace files).candidates.length +
        (scope.aggregate workspace files).statistics.rejections.length =
      (files.flatMap (scope.markedPlaces workspace)).length := by
  have decided := fun one => @isDecided_of_mem_flatMap scope workspace files one
  rw [flatMap_markedPlaces, List.map_map] at distinct
  have acceptedDistinct : (((files.flatMap (scope.judgedPlaces workspace)).filterMap
      JudgedPlace.candidate?).map Candidate.id).Nodup := by
    rw [JudgedPlace.map_id_candidate? decided]
    exact distinct.sublist (List.filter_sublist.map _)
  have held : (scope.aggregate workspace files).candidates =
      (files.flatMap (scope.judgedPlaces workspace)).filterMap JudgedPlace.candidate? := by
    rw [aggregate, Aggregation.candidates_ofFiles, flatMap_candidates_examineAll]
    exact Aggregation.foldl_insertCandidate_of_nodup acceptedDistinct
  rw [held, rejections_aggregate, flatMap_markedPlaces, List.length_map]
  exact JudgedPlace.length_candidate?_add_record? decided

end Scope

namespace Config

variable {config : Config} {workspace : Workspace} {circumstances : Circumstances}
  {mode : RunMode} {report : Report}

/-- A survey aggregates the files that are selected among those that are found. -/
theorem survey_eq_ok_of_found {survey : Survey} (surveyed : config.survey workspace = .ok survey) :
    ∃ selector found, config.selector = .ok selector ∧
      Selector.findFiles workspace config.baseDirectory = .ok found ∧
      survey.discovery = selector.discoveryOf found ∧
      survey.aggregation =
        config.scope.aggregate workspace (selector.filesSelectedAs .selected found) := by
  rcases bind_eq_ok.1 surveyed with ⟨selector, selects, surveyed⟩
  rcases bind_eq_ok.1 surveyed with ⟨visits, walked, made⟩
  rcases made with ⟨⟩
  have finds : Selector.findFiles workspace config.baseDirectory =
      .ok (FoundFile.ofVisits config.baseDirectory visits) := by
    rw [Selector.findFiles, Workspace.findFiles]
    rcases visited : workspace.visits config.baseDirectory with cause | found
    · rw [visited] at walked
      cases walked
    · rw [visited] at walked
      rcases walked with ⟨⟩
      rfl
  exact ⟨selector, _, selects, finds, rfl, rfl⟩

/-- The accounts of a run balance. Whatever the mode, a run that succeeds counts each selected file
once, by what came of it, and beside these the files that are found to be prior output. A
declaration that is marked as encodable in a file that is scanned has a record of its own which
tells why it is rejected, or its qualified name is reported; and if no two of them share a module
and a name, there are as many of them as names and records together. -/
theorem accounts_balance (ran : (config.run workspace circumstances mode).report = .ok report) :
    ∃ selector found, config.selector = .ok selector ∧
      Selector.findFiles workspace config.baseDirectory = .ok found ∧
      report.Balances config.scope workspace (selector.filesSelectedAs .selected found)
        (selector.filesSelectedAs .priorOutput found) := by
  rcases report_of_run ran with ⟨survey, surveyed, outcome, collisions, leftover, rendered, rfl⟩
  rcases survey_eq_ok_of_found surveyed with ⟨selector, found, selects, finds, discovered, same⟩
  refine ⟨selector, found, selects, finds, ?_⟩
  constructor
  · simp only [initialReport, discovered]
    rfl
  · simp only [initialReport, discovered, same]
    exact (config.scope.files_aggregate workspace _).symm
  · simp only [initialReport, same]
    exact config.scope.filesScanned_aggregate workspace _
  · simp only [initialReport, discovered]
    exact Nat.add_comm _ _
  · simp only [initialReport, same]
    exact config.scope.exists_judged_aggregate workspace _
  · simp only [initialReport, same, List.length_map]
    exact config.scope.length_aggregate workspace _

end Config

namespace Sample

/-- A workspace with a file for each thing that may come of one, and with one that is prior output
because of where it is. -/
def mixedWorkspace : Workspace where
  tree := ⟨[(["src"], .directory),
    (["src", "a.rs"], .file (String.toUTF8 ("#[encodable]struct A;" ++
      "impl A\x7bfn to_map(&self)->HashMap\x7b\x7dfn from_map(m:HashMap)->A\x7b\x7d\x7d" ++
      "#[encodable]struct B;struct C;"))),
    (["src", "b.rs"], .file (String.toUTF8 "// @generated")),
    (["src", "c.rs"], .file ⟨#[255]⟩),
    (["src", "d.rs"], .file (String.toUTF8 "struct")),
    (["src", "generated"], .directory), (["src", "generated", "e.rs"], .file .empty)]⟩
  directory := []

/-- What is found in the workspace. -/
def mixedAggregation : Aggregation where
  candidates := [⟨"A", "crate::a", ""⟩]
  serializer := none
  deserializer := none
  statistics := ⟨1, 1, 1, [⟨⟨"src/c.rs"⟩, "stream did not contain valid UTF-8"⟩],
    [⟨⟨"src/a.rs"⟩, "B", ["missing serialize method `to_map(&self)`",
      "missing deserialize constructor `from_map(map)`"]⟩]⟩

theorem aggregation_survey_mixed :
    (config.survey mixedWorkspace).toOption.map Survey.aggregation = some mixedAggregation ∧
      config.existingText? mixedWorkspace = none := by
  decide +kernel

/-- The declarations that are marked in the files of the workspace. -/
theorem markedPlaces_mixed :
    (config.selector.toOption.bind fun selector =>
      (Selector.findFiles mixedWorkspace config.baseDirectory).toOption.map fun found =>
        (selector.filesSelectedAs .selected found).flatMap
          (config.scope.markedPlaces mixedWorkspace)) =
      some [⟨⟨"src/a.rs"⟩, ⟨"A", "crate::a"⟩⟩, ⟨⟨"src/a.rs"⟩, ⟨"B", "crate::a"⟩⟩] := by
  decide +kernel

/-- A run that only shows the artifact of the workspace succeeds. -/
theorem run_mixed :
    ∃ report, (config.run mixedWorkspace circumstances .dryRun).report = .ok report := by
  rcases aggregation_survey_mixed with ⟨found, noText⟩
  rcases exists_survey_of_aggregation found with ⟨survey, surveyed, same⟩
  have findings : Aggregation.SameFindings mixedAggregation aggregation :=
    ⟨List.Perm.refl _, rfl, rfl⟩
  have made : config.artifactFor mixedWorkspace circumstances survey =
      .ok ⟨source, Candidate.collisions (Candidate.sorted aggregation.candidates)⟩ := by
    rw [Config.artifactFor, noText, same, Artifact.renderStable_of_no_stamp rfl rfl]
    exact (findings.render_eq (by decide) _ _).trans render_aggregation
  have nonempty : survey.aggregation.isEmpty = false := by
    rw [same]
    rfl
  rcases Config.run_dryRun_of_artifact surveyed nonempty made with ⟨_, report, ran, _⟩
  exact ⟨report, ran⟩

/-- Of the two declarations that are marked in the workspace, one is registered and one rejected. -/
theorem accounts_balance_mixed :
    ∃ report, (config.run mixedWorkspace circumstances .dryRun).report = .ok report ∧
      report.statistics.filesScanned + report.statistics.filesNotApplicable +
        report.statistics.priorOutputsSkipped + report.statistics.failures.length =
          report.filesMatched ∧
      report.declarations.length + report.statistics.rejections.length = 2 := by
  rcases run_mixed with ⟨report, ran⟩
  rcases Config.accounts_balance ran with ⟨selector, found, selects, finds, balances⟩
  have marked := markedPlaces_mixed
  simp only [selects, finds, Except.toOption, Option.bind_some, Option.map_some,
    Option.some.injEq] at marked
  have counted := balances.counted
  rw [marked] at counted
  exact ⟨report, ran, balances.files.symm, counted (by decide)⟩

end Sample

end Registrar
