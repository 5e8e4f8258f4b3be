import Registrar.Proofs.Discovery.Completeness

/-!
# The output directory and the sources

An accepted configuration has no output directory that holds the source root, unless this is the
base directory itself, below which nothing counts as output for that reason. So what is taken for
output among the sources lies in a directory strictly below the source root. How the output
directory is spelled does not change which paths are selected. It changes whether a configuration
is accepted in one case: only the spellings `.` and the empty one are taken for the base directory
where the output directory is checked.
-/

namespace Registrar

namespace FilePath

variable {base other path spelling : FilePath}

theorem isAbsolute_iff_root_mem : path.isAbsolute = true ↔ .root ∈ path.components := by
  rcases path.exists_rootless_components with ⟨rest, rootless, components⟩
  rw [components]
  cases path.isAbsolute <;> simp [rootless]

theorem isAbsolute_eq_of_components (same : spelling.components = path.components) :
    spelling.isAbsolute = path.isAbsolute := by
  rw [Bool.eq_iff_iff, isAbsolute_iff_root_mem, isAbsolute_iff_root_mem, same]

/-- Joined paths are the same where their parts are, whatever the spelling of these. -/
theorem components_join_congr (sameBase : other.components = base.components)
    (same : spelling.components = path.components) :
    (other.join spelling).components = (base.join path).components := by
  have sameStart := isAbsolute_eq_of_components same
  cases absolute : path.isAbsolute with
  | true =>
      rw [absolute] at sameStart
      rw [join, join, if_pos sameStart, if_pos absolute, same]
  | false =>
      rw [absolute] at sameStart
      by_cases empty : base.text = ""
      · have otherEmpty : other.text = "" := by
          rw [← components_eq_nil_iff, sameBase, components_eq_nil_iff, empty]
        simpa [join, absolute, sameStart, empty, otherEmpty] using same
      · have otherNonempty : other.text ≠ "" := by
          rwa [Ne, ← components_eq_nil_iff, sameBase, components_eq_nil_iff]
        rw [components_join otherNonempty sameStart, components_join empty absolute, sameBase,
          innerComponents_eq_filter, innerComponents_eq_filter, same]

end FilePath

namespace Config

variable {config : Config} {workspace : Workspace}

/-- What a selector takes to lie under the output directory lies there, strictly below the base. -/
theorem exists_outputNames_of_isUnderOutputDirectory {selector : Selector} {names : Location}
    (selects : config.selector = .ok selector) (named : ∀ name ∈ names, IsSegmentName name)
    (isOutput : selector.isUnderOutputDirectory ⟨"/".intercalate names⟩ = true) :
    ∃ directory, directory ≠ [] ∧ directory <+: names.map .name ∧
      config.outputDirectoryPath.components = config.baseDirectory.components ++ directory := by
  rcases bind_eq_ok.1 selects with ⟨sets, _, made⟩
  rcases made with ⟨⟩
  rw [Selector.isUnderOutputDirectory_eq, Option.any_eq_true] at isOutput
  rcases isOutput with ⟨directory, told, isOutput⟩
  rcases Option.filter_eq_some_iff.1 told with ⟨below, moves⟩
  have nonempty : directory ≠ [] := by
    rintro rfl
    cases moves
  rw [List.isPrefixOf_iff_prefix] at isOutput
  refine ⟨directory, nonempty, ?_, FilePath.componentsBelow?_eq_some.1 below⟩
  by_cases here : names = []
  · rw [here] at isOutput
    exact absurd (List.prefix_nil.1 isOutput) nonempty
  · rwa [FilePath.components_intercalate here named] at isOutput

theorem outputsToBase_iff : config.outputsToBase = true ↔
    config.outputDirectory.text = "" ∨ config.outputDirectory.text = "." := by
  rw [outputsToBase, Bool.or_eq_true, String.isEmpty_iff, beq_iff_eq]

theorem components_of_outputsToBase (nonempty : config.baseDirectory.text ≠ "")
    (toBase : config.outputsToBase = true) :
    config.outputDirectoryPath.components = config.baseDirectory.components := by
  have spelled : config.outputDirectory = ⟨""⟩ ∨ config.outputDirectory = ⟨"."⟩ :=
    (outputsToBase_iff.1 toBase).imp (congrArg FilePath.mk) (congrArg FilePath.mk)
  rw [outputDirectoryPath, resolve]
  rcases spelled with spelled | spelled
  · rw [spelled, FilePath.components_join nonempty (by decide)]
    exact List.append_nil _
  · rw [spelled, FilePath.components_join nonempty (by decide)]
    exact List.append_nil _

/-- The selector of an accepted configuration takes nothing at or below the source root to lie
under the output directory, unless that directory lies strictly below the source root and the path
at or below that directory. -/
theorem output_spares_sources (named : workspace.tree.IsNamed)
    (valid : config.validate workspace = .ok ()) :
    ∃ directory selector, workspace.locate config.baseDirectory true = .ok directory ∧
      config.selector = .ok selector ∧
      ∀ names entry, workspace.tree.entry? (directory ++ names) = some entry →
        (FoundFile.below config.baseDirectory names).path.isUnder config.sourceRootPath = true →
        selector.isUnderOutputDirectory (FoundFile.below config.baseDirectory names).relative =
          true →
        config.outputDirectoryPath.isUnder config.sourceRootPath = true ∧
          config.outputDirectoryPath.components ≠ config.sourceRootPath.components ∧
          (FoundFile.below config.baseDirectory names).path.isUnder config.outputDirectoryPath =
            true := by
  have accepted := isAccepted_of_validate valid
  have nonempty := accepted.baseDirectory_nonempty
  rcases accepted.exists_baseDirectory with ⟨directory, located, _⟩
  rcases accepted.exists_selector with ⟨selector, selects⟩
  refine ⟨directory, selector, located, selects, ?_⟩
  intro names entry present inSources isOutput
  have namesNamed : ∀ name ∈ names, IsSegmentName name := fun name member =>
    (named.isFileName_of_mem present name member).toIsSegmentName
  rcases exists_outputNames_of_isUnderOutputDirectory selects namesNamed isOutput with
    ⟨outputNames, outputNonempty, leads, output⟩
  have path := FoundFile.components_path_below config.baseDirectory namesNamed
  have below : config.outputDirectoryPath.components <+:
      (FoundFile.below config.baseDirectory names).path.components := by
    rw [output, path]
    exact (List.prefix_append_right_inj _).2 leads
  -- The check of the output directory was made, since this is not the base directory.
  have notBase : config.outputsToBase ≠ true := by
    intro toBase
    rw [components_of_outputsToBase nonempty toBase, List.self_eq_append_right] at output
    exact outputNonempty output
  have notAbove : ¬config.outputDirectoryPath.components <+: config.sourceRootPath.components := by
    rw [← FilePath.isUnder_iff, accepted.separate.resolve_left notBase]
    exact Bool.false_ne_true
  rw [FilePath.isUnder_iff] at inSources
  rcases List.prefix_or_prefix_of_prefix below inSources with above | under
  · exact absurd above notAbove
  · refine ⟨FilePath.isUnder_iff.2 under, ?_, FilePath.isUnder_iff.2 below⟩
    intro same
    exact notAbove (same ▸ List.prefix_refl _)

end Config

/-- A configuration for the nested tree, whose paths are not spelled in the shortest way. -/
def Sample.nestedConfig : Config :=
  { Config.standard with sourceRoot := ⟨"./"⟩, outputDirectory := ⟨".//gen/."⟩ }

/-- In the nested tree, what lies in `gen` is under the output directory, and that directory lies
strictly below the source root. -/
theorem Sample.output_spares_sources_nestedWorkspace :
    nestedConfig.validate nestedWorkspace = .ok () ∧
      ∃ selector, nestedConfig.selector = .ok selector ∧
        selector.isUnderOutputDirectory ⟨"gen/e.rs"⟩ = true ∧
        nestedConfig.outputDirectoryPath.isUnder nestedConfig.sourceRootPath = true ∧
        nestedConfig.outputDirectoryPath.components ≠ nestedConfig.sourceRootPath.components := by
  have valid : nestedConfig.validate nestedWorkspace = .ok () := by decide +kernel
  rcases Config.output_spares_sources isNamed_nestedWorkspace valid with
    ⟨directory, selector, located, selects, spares⟩
  have atRoot : nestedWorkspace.locate nestedConfig.baseDirectory true = .ok [] := by
    decide
  rcases Except.ok.inj (located.symm.trans atRoot) with rfl
  have isOutput : selector.isUnderOutputDirectory ⟨"gen/e.rs"⟩ = true := by
    have told : (nestedConfig.selector.toOption.map fun selector =>
        selector.isUnderOutputDirectory ⟨"gen/e.rs"⟩) = some true := by
      decide +kernel
    rw [selects] at told
    exact Option.some.inj told
  have below := spares ["gen", "e.rs"] (.file .empty) rfl (by decide) isOutput
  exact ⟨valid, selector, selects, isOutput, below.1, below.2.1⟩

namespace Config

variable {config : Config} {workspace : Workspace} {spelling : FilePath}

/-- A configuration with another output directory. -/
def withOutputDirectory (config : Config) (directory : FilePath) : Config :=
  { config with outputDirectory := directory }

theorem components_outputDirectoryPath_respelled
    (same : spelling.components = config.outputDirectory.components) :
    (config.withOutputDirectory spelling).outputDirectoryPath.components =
      config.outputDirectoryPath.components :=
  FilePath.components_join_congr rfl same

/-- The selector does not tell how the output directory is spelled. -/
theorem selector_respelled (same : spelling.components = config.outputDirectory.components) :
    (config.withOutputDirectory spelling).selector = config.selector := by
  have directory := components_outputDirectoryPath_respelled same
  have file : (config.withOutputDirectory spelling).outputPath.components =
      config.outputPath.components :=
    FilePath.components_join_congr directory rfl
  rw [selector, selector, FilePath.componentsBelow?, FilePath.componentsBelow?,
    FilePath.componentsBelow?, FilePath.componentsBelow?, directory, file]
  rfl

theorem IsAccepted.withOutputDirectory (accepted : config.IsAccepted workspace)
    (separate : (config.withOutputDirectory spelling).outputsToBase = true ∨
      config.sourceRootPath.isUnder (config.withOutputDirectory spelling).outputDirectoryPath =
        false) : (config.withOutputDirectory spelling).IsAccepted workspace :=
  { accepted with separate }

theorem isUnder_outputDirectoryPath_respelled (path : FilePath)
    (same : spelling.components = config.outputDirectory.components) :
    path.isUnder (config.withOutputDirectory spelling).outputDirectoryPath =
      path.isUnder config.outputDirectoryPath := by
  rw [FilePath.isUnder, FilePath.isUnder, components_outputDirectoryPath_respelled same]

/-- A configuration stays accepted where both spellings are `.` or neither is. -/
theorem IsAccepted.respelled (accepted : config.IsAccepted workspace)
    (same : spelling.components = config.outputDirectory.components)
    (asCurrent : spelling.text = "." ↔ config.outputDirectory.text = ".") :
    (config.withOutputDirectory spelling).IsAccepted workspace := by
  apply accepted.withOutputDirectory
  rw [isUnder_outputDirectoryPath_respelled _ same, outputsToBase_iff]
  refine accepted.separate.imp_left ?_
  intro toBase
  refine (outputsToBase_iff.1 toBase).imp ?_ asCurrent.2
  intro empty
  exact FilePath.components_eq_nil_iff.1 (same.trans (FilePath.components_eq_nil_iff.2 empty))

theorem outputsToBase_of_otherwise (current : config.outputDirectory.text = ".")
    (same : spelling.components = config.outputDirectory.components)
    (otherwise : spelling.text ≠ ".") :
    (config.withOutputDirectory spelling).outputsToBase ≠ true := by
  rw [Ne, outputsToBase_iff, not_or]
  refine ⟨?_, otherwise⟩
  intro empty
  have nothing : config.outputDirectory.components = [] :=
    same.symm.trans (FilePath.components_eq_nil_iff.2 empty)
  rw [FilePath.components_eq_nil_iff, current] at nothing
  exact absurd nothing (by decide)

/-- Where `.` is spelled in another way, the check asks for a source root outside the base
directory. -/
theorem isAccepted_respelled_iff (current : config.outputDirectory.text = ".")
    (same : spelling.components = config.outputDirectory.components)
    (otherwise : spelling.text ≠ ".") :
    (config.withOutputDirectory spelling).IsAccepted workspace ↔
      config.IsAccepted workspace ∧
        config.sourceRootPath.isUnder config.baseDirectory = false := by
  have toBase : config.outputsToBase = true := outputsToBase_iff.2 (Or.inr current)
  have asked : config.baseDirectory.text ≠ "" →
      config.sourceRootPath.isUnder (config.withOutputDirectory spelling).outputDirectoryPath =
        config.sourceRootPath.isUnder config.baseDirectory := by
    intro nonempty
    rw [isUnder_outputDirectoryPath_respelled _ same, FilePath.isUnder, FilePath.isUnder,
      components_of_outputsToBase nonempty toBase]
  constructor
  · intro accepted
    have separate := accepted.separate.resolve_left
      (outputsToBase_of_otherwise current same otherwise)
    have original : ((config.withOutputDirectory spelling).withOutputDirectory
        config.outputDirectory).IsAccepted workspace :=
      accepted.withOutputDirectory (Or.inl toBase)
    refine ⟨original, ?_⟩
    rw [← asked accepted.baseDirectory_nonempty]
    exact separate
  · rintro ⟨accepted, outside⟩
    apply accepted.withOutputDirectory
    rw [asked accepted.baseDirectory_nonempty]
    exact Or.inr outside

/-- Two configurations that differ only in how they spell their output directory have the same
selector. They are accepted alike where both spellings are `.` or neither is; where one is, the
other configuration is accepted only if the source root does not lie at or below the base
directory. -/
theorem respelled_output_acts_alike (config : Config) (workspace : Workspace)
    (same : spelling.components = config.outputDirectory.components) :
    (config.withOutputDirectory spelling).selector = config.selector ∧
      ((spelling.text = "." ↔ config.outputDirectory.text = ".") →
        ((config.withOutputDirectory spelling).validate workspace = .ok () ↔
          config.validate workspace = .ok ())) ∧
      (config.outputDirectory.text = "." → spelling.text ≠ "." →
        ((config.withOutputDirectory spelling).validate workspace = .ok () ↔
          config.validate workspace = .ok () ∧
            config.sourceRootPath.isUnder config.baseDirectory = false)) := by
  rw [validate_eq_ok_iff, validate_eq_ok_iff]
  refine ⟨selector_respelled same, ?_, ?_⟩
  · intro asCurrent
    constructor
    · intro accepted
      exact accepted.respelled same.symm asCurrent.symm
    · intro accepted
      exact accepted.respelled same asCurrent
  · intro current otherwise
    exact isAccepted_respelled_iff current same otherwise

end Config

/-- With the standard source root, the output directory `.` is accepted and `./` is not, although
both are the same path and select the same files. -/
theorem Sample.respelled_output_acts_alike_current :
    (FilePath.mk "./").components = (FilePath.mk ".").components ∧
      (Config.standard.withOutputDirectory ⟨"./"⟩).selector =
        (Config.standard.withOutputDirectory ⟨"."⟩).selector ∧
      (Config.standard.withOutputDirectory ⟨"."⟩).validate nestedWorkspace = .ok () ∧
      (Config.standard.withOutputDirectory ⟨"./"⟩).validate nestedWorkspace ≠ .ok () := by
  have same : (FilePath.mk "./").components = (FilePath.mk ".").components := by decide
  have accepted : (Config.standard.withOutputDirectory ⟨"."⟩).validate nestedWorkspace =
      .ok () := by
    decide +kernel
  rcases Config.respelled_output_acts_alike (Config.standard.withOutputDirectory ⟨"."⟩)
    nestedWorkspace same with ⟨selects, _, otherwise⟩
  refine ⟨same, selects, accepted, ?_⟩
  intro respelled
  have outside := ((otherwise rfl (by decide)).1 respelled).2
  exact absurd outside (by decide)

end Registrar
