import Mathlib.Data.List.Forall2
import Registrar.Proofs.Config

/-!
# Which paths are selected

A path below the base directory is selected if no run writes it and some source set includes it
without excluding it.
-/

namespace Registrar

/-- Whether a text is a pattern that matches a path. -/
def Glob.TextAccepts (text : String) (path : FilePath) : Prop :=
  ∃ glob, Glob.ofText text = .ok glob ∧ glob.accepts path.bytes = true

/-- Whether some pattern of a set includes a path and none of the same set excludes it. -/
def SourceSet.Selects (set : SourceSet) (path : FilePath) : Prop :=
  (∃ text ∈ set.includes, Glob.TextAccepts text path) ∧
    ∀ text ∈ set.excludes, ¬Glob.TextAccepts text path

section Lists

variable {Problem Value Result : Type}

theorem forall₂_of_mapM {read : Value → Except Problem Result} {values : List Value}
    {results : List Result} (ran : values.mapM read = .ok results) :
    List.Forall₂ (fun value result => read value = .ok result) values results := by
  induction values generalizing results with
  | nil =>
    rcases ran with ⟨⟩
    exact .nil
  | cons value others ih =>
    rw [List.mapM_cons, Config.bind_eq_ok] at ran
    rcases ran with ⟨first, readFirst, ran⟩
    rcases Config.bind_eq_ok.1 ran with ⟨rest, readRest, ⟨⟩⟩
    exact .cons readFirst (ih readRest)

theorem exists_mem_iff_of_forall₂ {relation : Value → Result → Prop} {left : List Value}
    {right : List Result} {holdsLeft : Value → Prop} {holdsRight : Result → Prop}
    (related : List.Forall₂ relation left right)
    (same : ∀ value result, relation value result → (holdsLeft value ↔ holdsRight result)) :
    (∃ value ∈ left, holdsLeft value) ↔ ∃ result ∈ right, holdsRight result := by
  induction related with
  | nil => simp
  | cons first _ ih =>
    rw [List.exists_mem_cons_iff, List.exists_mem_cons_iff, same _ _ first, ih]

end Lists

namespace Selector

variable {path : FilePath}

theorem textAccepts_iff {text : String} {glob : Glob} (read : Glob.ofText text = .ok glob) :
    Glob.TextAccepts text path ↔ glob.accepts path.bytes = true := by
  simp [Glob.TextAccepts, read]

theorem injective_some : Function.Injective (@some Component) :=
  fun _ _ => Option.some.inj

/-- Whether a path has the name of a generated file is told by its components. -/
theorem hasGeneratedName_eq (selector : Selector) (path : FilePath) :
    selector.hasGeneratedName path = (selector.outputFile == some path.components ||
      path.name?.any fun name => generatedSuffix.toList.isSuffixOf name.toList) := by
  have file : (selector.outputFile.map (List.map some) == some path.view.components) =
      (selector.outputFile == some path.components) := by
    cases selector.outputFile with
    | none => rfl
    | some output =>
      rw [Option.map_some, Bool.eq_iff_iff, beq_iff_eq, beq_iff_eq, Option.some.injEq,
        Option.some.injEq]
      exact injective_some.list_map.eq_iff
  rw [hasGeneratedName, seesGeneratedName, file, FilePath.view, List.getLast?_map, FilePath.name?]
  rcases path.components.getLast? with _ | _ | _ | _ | name <;> rfl

/-- Whether a path lies under the output directory is told by its components. -/
theorem isUnderOutputDirectory_eq (selector : Selector) (path : FilePath) :
    selector.isUnderOutputDirectory path =
      selector.outputDirectory.any fun directory => directory.isPrefixOf path.components := by
  rw [isUnderOutputDirectory, seesOutputDirectory]
  cases selector.outputDirectory with
  | none => rfl
  | some directory =>
    rw [Option.any_some, Bool.eq_iff_iff, List.isPrefixOf_iff_prefix, List.isPrefixOf_iff_prefix]
    exact List.prefix_map_iff_of_injective injective_some

theorem isPriorOutput_eq_false_iff {selector : Selector} :
    selector.isPriorOutput path = false ↔
      selector.hasGeneratedName path = false ∧ selector.isUnderOutputDirectory path = false :=
  Bool.or_eq_false_iff

theorem accepts_iff_of_readPatterns {texts : List String} {globs : List Glob}
    (read : readPatterns texts = .ok globs) :
    accepts globs path.view = true ↔ ∃ text ∈ texts, Glob.TextAccepts text path := by
  rw [accepts, List.any_eq_true]
  symm
  apply exists_mem_iff_of_forall₂ (forall₂_of_mapM read)
  intro text glob readText
  rcases parsed : Glob.ofText text with problem | found
  · rw [parsed] at readText
    cases readText
  · rw [parsed] at readText
    rcases readText with ⟨⟩
    exact textAccepts_iff parsed

theorem selects_iff_of_readSet {set : SourceSet} {globs : List Glob × List Glob}
    (read : readSet set = .ok globs) :
    set.Selects path ↔ accepts globs.1 path.view = true ∧ accepts globs.2 path.view = false := by
  rcases Config.bind_eq_ok.1 read with ⟨includes, readIncludes, read⟩
  rcases Config.bind_eq_ok.1 read with ⟨excludes, readExcludes, ⟨⟩⟩
  rw [SourceSet.Selects, accepts_iff_of_readPatterns readIncludes, ← Bool.not_eq_true,
    accepts_iff_of_readPatterns readExcludes]
  simp

/-- A path is selected if it is no prior output, and some patterns of one set accept it while those
for exclusion do not. -/
theorem select_eq_selected_iff {selector : Selector} :
    selector.select path = .selected ↔ selector.isPriorOutput path = false ∧
      ∃ globs ∈ selector.sets,
        accepts globs.1 path.view = true ∧ accepts globs.2 path.view = false := by
  rw [select, judge, ← isPriorOutput]
  cases selector.isPriorOutput path with
  | true => simp
  | false =>
    simp only [Bool.false_eq_true, if_false, true_and]
    split
    · rename_i included
      simp only [true_iff]
      simpa [and_assoc] using included
    · rename_i notIncluded
      constructor
      · intro selected
        split at selected <;> cases selected
      · intro included
        exact absurd (by simpa [and_assoc] using included) notIncluded

/-- The selector for an output directory and a file in it, both below the base directory. -/
def withOutput (sets : List (List Glob × List Glob)) (directory : List Component)
    (file : String) : Selector where
  sets
  outputDirectory := (some directory).filter fun components => !staysInPlace components
  outputFile := some (directory ++ [.name file])

section Output

variable {sets : List (List Glob × List Glob)} {names directory : Location} {file : String}

theorem name?_intercalate (nonempty : names ≠ []) (named : ∀ name ∈ names, IsSegmentName name) :
    (FilePath.mk ("/".intercalate names)).name? = names.getLast? := by
  rw [FilePath.name?, FilePath.components_intercalate nonempty named, List.getLast?_map]
  rcases names.getLast? with _ | name <;> rfl

theorem hasGeneratedName_withOutput (nonempty : names ≠ [])
    (named : ∀ name ∈ names, IsSegmentName name) :
    (withOutput sets (directory.map .name) file).hasGeneratedName ⟨"/".intercalate names⟩ = false ↔
      names ≠ directory ++ [file] ∧
        ∀ name, names.getLast? = some name → ¬generatedSuffix.toList <:+ name.toList := by
  have injective : Function.Injective Component.name := fun _ _ same => Component.name.inj same
  have output : directory.map Component.name ++ [.name file] =
      (directory ++ [file]).map Component.name := by
    simp
  rw [hasGeneratedName_eq, Bool.or_eq_false_iff, FilePath.components_intercalate nonempty named,
    name?_intercalate nonempty named, withOutput, output, beq_eq_false_iff_ne, Ne,
    Option.some.injEq, injective.list_map.eq_iff, eq_comm]
  apply and_congr_right
  intro _
  rcases names.getLast? with _ | name
  · simp
  · simp [← Bool.not_eq_true]

theorem isUnderOutputDirectory_withOutput (nonempty : names ≠ [])
    (named : ∀ name ∈ names, IsSegmentName name) :
    (withOutput sets (directory.map .name) file).isUnderOutputDirectory
        ⟨"/".intercalate names⟩ = false ↔ (directory ≠ [] → ¬directory <+: names) := by
  have injective : Function.Injective Component.name := fun _ _ same => Component.name.inj same
  rw [isUnderOutputDirectory_eq, withOutput, FilePath.components_intercalate nonempty named]
  rcases directory with _ | ⟨first, others⟩
  · simp [staysInPlace, Option.filter]
  · have moves : staysInPlace ((first :: others).map Component.name) = false := by
      simp [staysInPlace]
    rw [Option.filter_some, moves]
    simp only [Bool.not_false, if_true, ne_eq, reduceCtorEq, not_false_eq_true, forall_const]
    rw [← Bool.not_eq_true, Option.any_some, List.isPrefixOf_iff_prefix,
      List.prefix_map_iff_of_injective injective]

end Output

end Selector

namespace Config

variable {config : Config} {workspace : Workspace}

/-- The names that lead from the base directory to a relative output directory. -/
def outputNames (config : Config) : Location :=
  config.outputDirectory.innerComponents.filterMap Component.segment?

/-- Whether names lead from the base directory to where a source may lie: not to the output file,
not below the output directory, unless this is the base directory itself, and not to a file with
the name of a generated one. Some source set has to select the path. -/
structure Admits (config : Config) (names : Location) : Prop where
  notOutput : names ≠ config.outputNames ++ [config.outputFile]
  notBelowOutput : config.outputNames ≠ [] → ¬config.outputNames <+: names
  notGenerated : ∀ name, names.getLast? = some name → ¬generatedSuffix.toList <:+ name.toList
  selected : ∃ set ∈ config.sourceSets, set.Selects ⟨"/".intercalate names⟩

theorem selector_eq_ok {selector : Selector} (accepted : config.IsAccepted workspace)
    (relative : config.outputDirectory.isAbsolute = false)
    (selects : config.selector = .ok selector) :
    ∃ sets, config.sourceSets.mapM Selector.readSet = .ok sets ∧
      selector = .withOutput sets config.outputDirectory.innerComponents config.outputFile := by
  have directory : config.outputDirectoryPath.componentsBelow? config.baseDirectory =
      some config.outputDirectory.innerComponents :=
    FilePath.componentsBelow?_join accepted.baseDirectory_nonempty relative
  have file : config.outputPath.componentsBelow? config.baseDirectory =
      some (config.outputDirectory.innerComponents ++ [.name config.outputFile]) := by
    simp [FilePath.componentsBelow?, accepted.components_outputPath relative]
  rw [Config.selector, Selector.ofSets, directory, file] at selects
  rcases bind_eq_ok.1 selects with ⟨sets, read, ⟨⟩⟩
  exact ⟨sets, read, rfl⟩

theorem map_name_outputNames (descends : .parent ∉ config.outputDirectory.innerComponents) :
    config.outputNames.map Component.name = config.outputDirectory.innerComponents := by
  apply FilePath.map_name_filterMap_segment?
  intro component member
  apply FilePath.exists_name_of_mem_innerComponents member
  rintro rfl
  exact descends member

/-- The selector of an accepted configuration selects the paths that the configuration admits. -/
theorem select_eq_selected_iff_admits {selector : Selector} {names : Location}
    (accepted : config.IsAccepted workspace) (relative : config.outputDirectory.isAbsolute = false)
    (descends : .parent ∉ config.outputDirectory.innerComponents)
    (selects : config.selector = .ok selector) (nonempty : names ≠ [])
    (named : ∀ name ∈ names, IsSegmentName name) :
    selector.select ⟨"/".intercalate names⟩ = .selected ↔ config.Admits names := by
  rcases selector_eq_ok accepted relative selects with ⟨sets, read, rfl⟩
  have chosen := exists_mem_iff_of_forall₂ (forall₂_of_mapM read)
    fun set globs readSet =>
      @Selector.selects_iff_of_readSet ⟨"/".intercalate names⟩ set globs readSet
  rw [Selector.select_eq_selected_iff, Selector.isPriorOutput_eq_false_iff,
    ← map_name_outputNames descends, Selector.hasGeneratedName_withOutput nonempty named,
    Selector.isUnderOutputDirectory_withOutput nonempty named]
  constructor
  · rintro ⟨⟨⟨notOutput, notGenerated⟩, notBelow⟩, selected⟩
    exact ⟨notOutput, notBelow, notGenerated, chosen.2 selected⟩
  · rintro ⟨notOutput, notBelow, notGenerated, selected⟩
    exact ⟨⟨⟨notOutput, notGenerated⟩, notBelow⟩, chosen.1 selected⟩

end Config

end Registrar
