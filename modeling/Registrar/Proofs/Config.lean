import Registrar.Config
import Registrar.Proofs.Workspace.Resolution

/-!
# Accepted configurations

A configuration that passes its checks fulfils the condition of each of them. Its output file is a
single name, and the path of its artifact has the components of the base directory, those of the
output directory and that name.
-/

namespace Registrar

namespace FilePath

/-- A text that ends in the ending of sources has a segment that is not idle. -/
theorem exists_moving_segment (before : List Char) :
    ∃ segment ∈ (before ++ ".rs".toList).splitOn '/', isIdle segment = false := by
  induction before with
  | nil => exact ⟨".rs".toList, by decide, by decide⟩
  | cons character rest ih =>
      rcases ih with ⟨segment, member, moves⟩
      rw [List.cons_append, List.splitOn_cons_eq_if_modifyHead]
      split
      · exact ⟨segment, List.mem_cons_of_mem _ member, moves⟩
      · rcases segments : (rest ++ ".rs".toList).splitOn '/' with _ | ⟨first, others⟩
        · exact absurd segments (List.splitOn_ne_nil _ _)
        · rw [segments] at member
          rcases List.mem_cons.1 member with rfl | later
          · refine ⟨character :: segment, List.mem_cons_self, ?_⟩
            have notEmpty : segment ≠ [] := by
              rintro rfl
              cases moves
            simp [isIdle, notEmpty]
          · exact ⟨segment, List.mem_cons_of_mem _ later, moves⟩

theorem exists_componentOfSegment? {segment : List Char} (moves : isIdle segment = false) :
    ∃ component, componentOfSegment? segment = some component := by
  have stands := segment?_componentOfSegment? segment
  rw [moves, if_neg Bool.false_ne_true] at stands
  rcases Option.bind_eq_some_iff.1 stands with ⟨component, found, _⟩
  exact ⟨component, found⟩

theorem leadingComponents_ne_nil (segment : List Char) (rest : List (List Char)) :
    leadingComponents (segment :: rest) ≠ [] := by
  rw [leadingComponents.eq_def]
  split
  · rename_i empty
    cases empty
  · exact List.cons_ne_nil _ _
  · exact List.cons_ne_nil _ _
  · rename_i notRoot notCurrent
    have moves : isIdle segment = false := by
      simp only [isIdle, Bool.or_eq_false_iff, beq_eq_false_iff_ne]
      constructor
      · rintro rfl
        exact notRoot rest rfl
      · rintro rfl
        exact notCurrent rest rfl
    rcases exists_componentOfSegment? moves with ⟨component, found⟩
    simp [found]

/-- Only the empty path leads through nothing. -/
theorem components_eq_nil_iff {path : FilePath} : path.components = [] ↔ path.text = "" := by
  have empty : path.text.toList.splitOn '/' = [[]] ↔ path.text = "" := by
    rw [splitOn_eq_singleton_nil, String.toList_eq_nil_iff]
  rw [← empty, components]
  constructor
  · intro nothing
    by_cases single : path.text.toList.splitOn '/' = [[]]
    · exact single
    · rw [componentsOfSegments_eq single] at nothing
      rcases segments : path.text.toList.splitOn '/' with _ | ⟨first, rest⟩
      · exact absurd segments (List.splitOn_ne_nil _ _)
      · rw [segments] at nothing
        exact absurd nothing (leadingComponents_ne_nil first rest)
  · intro single
    rw [single, componentsOfSegments]

end FilePath

/-- A source file that is given by a single component is given by its name. -/
theorem isSegmentName_of_isBare {file : String} (isSource : ".rs".toList <:+ file.toList)
    (bare : (FilePath.mk file).components.length = 1) : IsSegmentName file := by
  have notShort : ∀ text : String, ¬".rs".toList <:+ text.toList → file ≠ text := by
    rintro text notSource rfl
    exact notSource isSource
  refine ⟨notShort "" (by decide), notShort "." (by decide), notShort ".." (by decide), ?_⟩
  intro slash
  rcases isSource with ⟨before, whole⟩
  rw [← whole, List.mem_append] at slash
  have inBefore : '/' ∈ before := slash.resolve_right (by decide)
  rcases List.eq_append_cons_of_mem inBefore with ⟨first, rest, split, plain⟩
  have segments : file.toList.splitOn '/' =
      [first] ++ (rest ++ ".rs".toList).splitOn '/' := by
    rw [← whole, split, List.append_assoc, List.cons_append,
      List.splitOn_append_cons_self, List.splitOn_eq_singleton plain]
  rcases FilePath.exists_moving_segment rest with ⟨segment, member, moves⟩
  rcases FilePath.exists_componentOfSegment? moves with ⟨component, found⟩
  have tail : component ∈ ((rest ++ ".rs".toList).splitOn '/').filterMap
      FilePath.componentOfSegment? := List.mem_filterMap.2 ⟨segment, member, found⟩
  rw [FilePath.components, segments, FilePath.componentsOfSegments_append (List.cons_ne_nil _ _)
    (List.splitOn_ne_nil _ _), List.length_append] at bare
  have headLength := List.length_pos_iff.2 (FilePath.leadingComponents_ne_nil first [])
  have tailLength := List.length_pos_of_mem tail
  omega

namespace Config

theorem bind_eq_ok {Problem Value Result : Type} {first : Except Problem Value}
    {next : Value → Except Problem Result} {result : Result} :
    first >>= next = .ok result ↔ ∃ value, first = .ok value ∧ next value = .ok result := by
  cases first with
  | error problem => simp [bind, Except.bind]
  | ok value => simp [bind, Except.bind]

theorem require_eq_ok {condition : Bool} {problem : ConfigProblem} {result : Unit} :
    require condition problem = .ok result ↔ condition = true := by
  rw [require]
  cases condition <;> simp

/-- The conditions on a configuration in a workspace. -/
structure IsAccepted (config : Config) (workspace : Workspace) : Prop where
  baseExists : workspace.pathExists config.baseDirectory = true
  baseIsDirectory : workspace.isDirectory config.baseDirectory = true
  hasSources : config.sourceSets.isEmpty = false
  includes : checkIncludes config.sourceSets = .ok ()
  patterns : checkPatterns config.sourceSets = .ok ()
  separate : config.outputsToBase = true ∨
    config.sourceRootPath.isUnder config.outputDirectoryPath = false
  outputIsSource : ".rs".toList <:+ config.outputFile.toList
  outputIsBare : (FilePath.mk config.outputFile).components.length = 1
  codecName : Source.isName config.codecName.toList = true
  encodableMarker : Source.isName config.markers.encodable.toList = true
  serializerMarker : Source.isName config.markers.serializer.toList = true
  deserializerMarker : Source.isName config.markers.deserializer.toList = true
  serializeMethod : Source.isName config.contract.serializeMethod.toList = true
  deserializeConstructor : Source.isName config.contract.deserializeConstructor.toList = true
  mapTypeName : Source.isName config.contract.mapTypeName.toList = true
  cratePrefix : Source.isPath config.cratePrefix.toList = true
  mapType : Source.isType config.mapType.toList = true

/-- A configuration without problems fulfils every condition. -/
theorem isAccepted_of_validate {config : Config} {workspace : Workspace}
    (valid : config.validate workspace = .ok ()) : config.IsAccepted workspace := by
  simp only [validate, checkName, bind_eq_ok, require_eq_ok, Bool.not_eq_true', Bool.or_eq_true,
    List.isSuffixOf_iff_suffix, beq_iff_eq] at valid
  rcases valid with
    ⟨_, baseExists, _, baseIsDirectory, _, hasSources, _, includes, _, patterns, _, separate, _,
     outputIsSource, _, outputIsBare, _, codecName, _, encodableMarker, _, serializerMarker, _,
     deserializerMarker, _, serializeMethod, _, deserializeConstructor, _, mapTypeName, _,
     cratePrefix, mapType⟩
  exact ⟨baseExists, baseIsDirectory, hasSources, includes, patterns, separate, outputIsSource,
    outputIsBare, codecName, encodableMarker, serializerMarker, deserializerMarker,
    serializeMethod, deserializeConstructor, mapTypeName, cratePrefix, mapType⟩

/-- A configuration that fulfils every condition has no problems. -/
theorem validate_of_isAccepted {config : Config} {workspace : Workspace}
    (accepted : config.IsAccepted workspace) : config.validate workspace = .ok () := by
  rcases accepted with ⟨baseExists, baseIsDirectory, hasSources, includes, patterns, separate,
    outputIsSource, outputIsBare, codecName, encodableMarker, serializerMarker, deserializerMarker,
    serializeMethod, deserializeConstructor, mapTypeName, cratePrefix, mapType⟩
  simp only [validate, checkName, bind_eq_ok, require_eq_ok, Bool.not_eq_true', Bool.or_eq_true,
    List.isSuffixOf_iff_suffix, beq_iff_eq]
  exact ⟨(), baseExists, (), baseIsDirectory, (), hasSources, (), includes, (), patterns, (),
    separate, (), outputIsSource, (), outputIsBare, (), codecName, (), encodableMarker, (),
    serializerMarker, (), deserializerMarker, (), serializeMethod, (), deserializeConstructor, (),
    mapTypeName, (), cratePrefix, mapType⟩

theorem validate_eq_ok_iff {config : Config} {workspace : Workspace} :
    config.validate workspace = .ok () ↔ config.IsAccepted workspace :=
  ⟨isAccepted_of_validate, validate_of_isAccepted⟩

namespace IsAccepted

variable {config : Config} {workspace : Workspace} (accepted : config.IsAccepted workspace)

include accepted

theorem isSegmentName_outputFile : IsSegmentName config.outputFile :=
  isSegmentName_of_isBare accepted.outputIsSource accepted.outputIsBare

/-- The base directory is where its path leads. -/
theorem exists_baseDirectory :
    ∃ directory, workspace.locate config.baseDirectory true = .ok directory ∧
      workspace.tree.isDirectory directory = true := by
  rcases Workspace.exists_located_directory accepted.baseIsDirectory with
    ⟨directory, located, present⟩
  exact ⟨directory, located, FileTree.isDirectory_iff.2 present⟩

theorem baseDirectory_nonempty : config.baseDirectory.text ≠ "" := by
  rcases accepted.exists_baseDirectory with ⟨directory, located, _⟩
  intro empty
  rw [Workspace.locate, if_pos (by simp [empty])] at located
  cases located

/-- The patterns of an accepted configuration can be read, whatever is told about the output. -/
theorem exists_selector : ∃ selector, config.selector = .ok selector := by
  have readable := accepted.patterns
  rw [checkPatterns] at readable
  split at readable
  · rename_i selector selects
    rw [Selector.ofSets] at selects
    rcases bind_eq_ok.1 selects with ⟨sets, read, _⟩
    rw [Config.selector, Selector.ofSets, read]
    exact ⟨_, rfl⟩
  · cases readable

/-- The names that lead from the base directory to a relative output directory. -/
theorem components_outputPath (relative : config.outputDirectory.isAbsolute = false) :
    config.outputPath.components = config.baseDirectory.components ++
      (config.outputDirectory.innerComponents ++ [.name config.outputFile]) := by
  have named := accepted.isSegmentName_outputFile
  have baseNonempty := accepted.baseDirectory_nonempty
  rw [outputPath, outputDirectoryPath, resolve,
    FilePath.components_join (FilePath.text_join_ne_empty baseNonempty relative)
      named.isAbsolute_eq_false,
    FilePath.components_join baseNonempty relative, named.innerComponents, List.append_assoc]

end IsAccepted

end Config

end Registrar
