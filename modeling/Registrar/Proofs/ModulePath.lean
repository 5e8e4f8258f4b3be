import Registrar.ModulePath
import Registrar.Proofs.Source.Words
import Registrar.Proofs.Workspace.Below

/-!
# Module paths and files

A module path tells the file that holds the module, up to the names that stand for one module: those
of the root module, and the file beside a directory and the file `mod.rs` in it. Segments of module
paths are names and hold no colon, so the segments are told by the module path, and the names of a
file by these segments.
-/

namespace Registrar

namespace FilePath

/-- The name of a file is what stands before its extension, a point and the extension. -/
theorem cutAtExtension?_eq_some {name stem extension : List Char} :
    cutAtExtension? name = some (stem, extension) ↔
      name = stem ++ '.' :: extension ∧ stem ≠ [] ∧ '.' ∉ extension := by
  rw [cutAtExtension?]
  constructor
  · intro cut
    have whole := @List.takeWhile_append_dropWhile _ (fun character => decide (character ≠ '.'))
      name.reverse
    have first := List.head?_dropWhile_not (fun character => decide (character ≠ '.')) name.reverse
    split at cut
    · cases cut
    · rename_i point before rest
      split at cut
      · cases cut
      · rename_i nonempty
        rcases cut with ⟨⟩
        rw [rest] at whole first
        have isPoint : point = '.' := by simpa using first
        subst isPoint
        refine ⟨?_, by simpa using nonempty, ?_⟩
        · rw [← List.reverse_inj, List.reverse_append, List.reverse_cons, List.reverse_reverse,
            List.reverse_reverse, List.append_assoc, List.singleton_append, whole]
        · intro member
          have notPoint := List.all_eq_true.1 List.all_takeWhile _ (List.mem_reverse.1 member)
          simp at notPoint
  · rintro ⟨rfl, nonempty, pointless⟩
    have plain : ∀ character ∈ extension.reverse, decide (character ≠ '.') = true := by
      intro character member
      rw [decide_eq_true_iff]
      rintro rfl
      exact pointless (List.mem_reverse.1 member)
    have reversed : (stem ++ '.' :: extension).reverse =
        extension.reverse ++ '.' :: stem.reverse := by
      simp
    rw [reversed, List.dropWhile_append_of_pos plain, List.takeWhile_append_of_pos plain,
      List.dropWhile_cons_of_neg (by simp), List.takeWhile_cons_of_neg (by simp)]
    simp [nonempty]

theorem isSegmentName_of_mem_components {path : FilePath} {name : String}
    (member : .name name ∈ path.components) : IsSegmentName name := by
  have inner : .name name ∈ path.innerComponents := by
    rw [innerComponents_eq_filter, List.mem_filter]
    exact ⟨member, rfl⟩
  rcases exists_name_of_mem_innerComponents inner (by simp) with ⟨found, same, named⟩
  rcases same with ⟨⟩
  exact named

end FilePath

namespace ModulePath

variable {root file left right : FilePath} {start module : String}

theorem names?_map_name (names : List String) : names? (names.map .name) = some names := by
  induction names with
  | nil => rfl
  | cons name others ih =>
      rw [names?] at ih ⊢
      rw [List.map_cons, List.mapM_cons, ih]
      rfl

theorem eq_map_of_names? {components : List Component} {names : List String}
    (named : names? components = some names) : components = names.map .name := by
  induction components generalizing names with
  | nil =>
      rcases named with ⟨⟩
      rfl
  | cons component rest ih =>
      rw [names?, List.mapM_cons] at named
      cases component with
      | name name =>
          rcases Option.bind_eq_some_iff.1 named with ⟨first, isFirst, named⟩
          rcases Option.bind_eq_some_iff.1 named with ⟨others, restNamed, isList⟩
          rcases isFirst with ⟨⟩
          rcases isList with ⟨⟩
          rw [ih restNamed, List.map_cons]
      | root => cases named
      | current => cases named
      | parent => cases named

/-- The extension of the last name is that of sources, and the stems are without it. -/
theorem stems?_eq_some {names stems : List String} :
    stems? names = some stems ↔ ∃ directories stem, stem ≠ "" ∧
      names = directories ++ [stem ++ ".rs"] ∧ stems = directories ++ [stem] := by
  constructor
  · intro found
    rcases Option.bind_eq_some_iff.1 found with ⟨file, isLast, found⟩
    rcases Option.bind_eq_some_iff.1 found with ⟨⟨stem, extension⟩, cut, found⟩
    rcases List.getLast?_eq_some_iff.1 isLast with ⟨directories, rfl⟩
    rcases FilePath.cutAtExtension?_eq_some.1 cut with ⟨whole, nonempty, _⟩
    dsimp only at found
    split at found
    · rename_i isSource
      rcases found with ⟨⟩
      refine ⟨directories, String.ofList stem, by simpa using nonempty, ?_, ?_⟩
      · rw [isSource] at whole
        have named : file = String.ofList stem ++ ".rs" := by
          rw [← String.toList_inj, whole]
          simp
        rw [named]
      · rw [List.dropLast_concat]
    · cases found
  · rintro ⟨directories, stem, nonempty, rfl, rfl⟩
    have cut : FilePath.cutAtExtension? (stem ++ ".rs").toList =
        some (stem.toList, ['r', 's']) := by
      rw [FilePath.cutAtExtension?_eq_some]
      exact ⟨by simp, by simpa using nonempty, by decide⟩
    rw [stems?, List.getLast?_concat]
    simp only [bind, Option.bind, cut, if_true, List.dropLast_concat, String.ofList_toList]

/-- Whether a stem is dropped from the module path of a file in a directory. -/
def IsDropped (directories : List String) (stem : String) : Prop :=
  stem = "mod" ∨ directories = [] ∧ (stem = "lib" ∨ stem = "main")

instance (directories : List String) (stem : String) : Decidable (IsDropped directories stem) :=
  inferInstanceAs (Decidable (_ ∨ _))

theorem withoutRootFile_concat (directories : List String) (stem : String) :
    withoutRootFile (directories ++ [stem]) =
      if IsDropped directories stem then directories else directories ++ [stem] := by
  have alone : ∀ name : String, directories ++ [stem] = [name] ↔
      directories = [] ∧ stem = name := by
    intro name
    rw [List.append_eq_singleton_iff]
    simp
  have dropped : (directories ++ [stem] = ["lib"] ∨ directories ++ [stem] = ["main"] ∨
      (directories ++ [stem]).getLast? = some "mod") ↔ IsDropped directories stem := by
    rw [alone, alone, List.getLast?_concat, Option.some.injEq, IsDropped, and_or_left]
    tauto
  rw [withoutRootFile, List.dropLast_concat]
  simp only [dropped]

theorem mem_of_mem_withoutRootFile {directories : List String} {stem segment : String}
    (member : segment ∈ withoutRootFile (directories ++ [stem])) :
    segment ∈ directories ++ [stem] := by
  rw [withoutRootFile_concat] at member
  split at member
  · exact List.mem_append_left _ member
  · exact member

/-- In a directory, only `mod` is dropped. -/
theorem IsDropped.eq_mod {directories : List String} {stem : String}
    (dropped : IsDropped directories stem) (nested : directories ≠ []) : stem = "mod" := by
  rcases dropped with isModule | ⟨here, _⟩
  · exact isModule
  · exact absurd here nested

/-- A file has a module if it lies below the root and is called like a source, and all names that
are not dropped may name a module. -/
theorem ofFile?_eq_some : ofFile? root file start = some module ↔ ∃ directories stem,
    stem ≠ "" ∧
      file.components = root.components ++ (directories ++ [stem ++ ".rs"]).map .name ∧
      (∀ segment ∈ withoutRootFile (directories ++ [stem]),
        Source.isName segment.toList = true) ∧
      module = extend start (withoutRootFile (directories ++ [stem])) := by
  constructor
  · intro found
    rcases Option.bind_eq_some_iff.1 found with ⟨components, below, found⟩
    rcases Option.bind_eq_some_iff.1 found with ⟨segments, isModule, made⟩
    rcases made with ⟨⟩
    rcases Option.bind_eq_some_iff.1 isModule with ⟨names, named, isModule⟩
    rcases Option.bind_eq_some_iff.1 isModule with ⟨stems, isSource, isModule⟩
    rcases stems?_eq_some.1 isSource with ⟨directories, stem, nonempty, rfl, rfl⟩
    dsimp only at isModule
    split at isModule
    · rename_i allNames
      rcases isModule with ⟨⟩
      refine ⟨directories, stem, nonempty, ?_, List.all_eq_true.1 allNames, rfl⟩
      rw [FilePath.componentsBelow?_eq_some.1 below, eq_map_of_names? named]
    · cases isModule
  · rintro ⟨directories, stem, nonempty, components, allNames, rfl⟩
    have below := FilePath.componentsBelow?_eq_some.2 components
    have stems := stems?_eq_some.2 ⟨directories, stem, nonempty, rfl, rfl⟩
    have segments : segments? ((directories ++ [stem ++ ".rs"]).map .name) =
        some (withoutRootFile (directories ++ [stem])) := by
      rw [segments?, names?_map_name]
      simp only [bind, Option.bind, stems]
      rw [if_pos (List.all_eq_true.2 allNames)]
    rw [ofFile?, below]
    simp only [bind, Option.bind, segments]
    rfl

section Extend

variable {segments others : List String}

theorem toList_extend (start : String) (segments : List String) :
    (extend start segments).toList =
      start.toList ++ segments.flatMap fun segment => ':' :: ':' :: segment.toList := by
  have joined : (segments.map fun segment => "::" ++ segment).flatMap String.toList =
      segments.flatMap fun segment => ':' :: ':' :: segment.toList := by
    rw [List.flatMap_map]
    simp only [String.toList_append]
    rfl
  rw [extend, String.toList_append, String.toList_join, joined]

theorem extend_eq_intercalate (start : String) (segments : List String) :
    extend start segments = "::".intercalate (start :: segments) := by
  rw [← String.toList_inj, toList_extend, String.toList_intercalate]
  induction segments generalizing start with
  | nil => simp
  | cons segment others ih =>
      rw [List.map_cons, List.map_cons, List.intercalate_cons_cons, ← List.map_cons, ← ih]
      simp

/-- A segment without a colon ends where the next one begins. -/
theorem takeWhile_segment {segment : String} (plain : ':' ∉ segment.toList)
    (others : List String) :
    ((segment.toList ++ others.flatMap fun other => ':' :: ':' :: other.toList).takeWhile
      fun character => character ≠ ':') = segment.toList := by
  have continues : ∀ character ∈ segment.toList, decide (character ≠ ':') = true := by
    intro character member
    rw [decide_eq_true_iff]
    rintro rfl
    exact plain member
  rw [List.takeWhile_append_of_pos continues]
  rcases others with _ | ⟨other, rest⟩
  · simp
  · simp

/-- Segments without colons are told by the module path. -/
theorem eq_of_extend_eq (plain : ∀ segment ∈ segments, ':' ∉ segment.toList)
    (othersPlain : ∀ segment ∈ others, ':' ∉ segment.toList)
    (same : extend start segments = extend start others) : segments = others := by
  rw [← String.toList_inj, toList_extend, toList_extend, List.append_cancel_left_eq] at same
  induction segments generalizing others with
  | nil =>
      rcases others with _ | ⟨other, rest⟩
      · rfl
      · cases same
  | cons segment rest ih =>
      rcases others with _ | ⟨other, others⟩
      · cases same
      · simp only [List.flatMap_cons, List.cons_append, List.cons.injEq, true_and] at same
        have segmentPlain := plain segment List.mem_cons_self
        have otherPlain := othersPlain other List.mem_cons_self
        have first : segment = other := by
          rw [← String.toList_inj, ← takeWhile_segment segmentPlain rest, same,
            takeWhile_segment otherPlain others]
        rw [first, List.append_cancel_left_eq] at same
        rw [first, ih (fun name member => plain name (List.mem_cons_of_mem _ member))
          (fun name member => othersPlain name (List.mem_cons_of_mem _ member)) same]

end Extend

/-- Two files below a root whose names stand for one module. -/
inductive IsAlias (root left right : FilePath) : Prop
  | same (components : left.components = right.components)
  /-- Both files hold the root module. -/
  | rootModule {leftName rightName : String} (leftRoot : leftName ∈ ["lib.rs", "main.rs", "mod.rs"])
      (rightRoot : rightName ∈ ["lib.rs", "main.rs", "mod.rs"])
      (leftLies : left.components = root.components ++ [.name leftName])
      (rightLies : right.components = root.components ++ [.name rightName])
  /-- The first file lies beside the directory in which the second one is `mod.rs`. -/
  | beside {directories : List String} {stem : String}
      (leftLies : left.components =
        root.components ++ (directories ++ [stem ++ ".rs"]).map .name)
      (rightLies : right.components =
        root.components ++ (directories ++ [stem, "mod.rs"]).map .name)
  /-- The first file is `mod.rs` in the directory beside which the second one lies. -/
  | inside {directories : List String} {stem : String}
      (leftLies : left.components =
        root.components ++ (directories ++ [stem, "mod.rs"]).map .name)
      (rightLies : right.components =
        root.components ++ (directories ++ [stem ++ ".rs"]).map .name)

theorem mem_rootNames_of_isDropped {stem : String} (dropped : IsDropped [] stem) :
    stem ++ ".rs" ∈ ["lib.rs", "main.rs", "mod.rs"] := by
  rcases dropped with rfl | ⟨_, rfl | rfl⟩
  · decide
  · decide
  · decide

theorem colon_not_mem_of_components {directories : List String} {stem : String}
    (components : file.components =
      root.components ++ (directories ++ [stem ++ ".rs"]).map .name)
    (allNames : ∀ segment ∈ withoutRootFile (directories ++ [stem]),
      Source.isName segment.toList = true) :
    ∀ segment ∈ withoutRootFile (directories ++ [stem]), ':' ∉ segment.toList := by
  have lies : ∀ name ∈ directories ++ [stem ++ ".rs"], '/' ∉ name.toList := by
    intro name member
    have inFile : .name name ∈ file.components := by
      rw [components]
      exact List.mem_append_right _ (List.mem_map_of_mem member)
    exact (FilePath.isSegmentName_of_mem_components inFile).no_slash
  intro segment member
  apply Source.colon_not_mem_of_isName (allNames segment member)
  rcases List.mem_append.1 (mem_of_mem_withoutRootFile member) with inDirectories | isStem
  · exact lies segment (List.mem_append_left _ inDirectories)
  · rcases List.mem_singleton.1 isStem with rfl
    intro slash
    apply lies (segment ++ ".rs") (List.mem_append_right _ (List.mem_singleton_self _))
    rw [String.toList_append]
    exact List.mem_append_left _ slash

theorem isAlias_of_ofFile? (leftModule : ofFile? root left start = some module)
    (rightModule : ofFile? root right start = some module) : IsAlias root left right := by
  rcases ofFile?_eq_some.1 leftModule with ⟨leftDirectories, leftStem, _, leftLies, leftNames, rfl⟩
  rcases ofFile?_eq_some.1 rightModule with
    ⟨rightDirectories, rightStem, _, rightLies, rightNames, same⟩
  have segments := eq_of_extend_eq (colon_not_mem_of_components leftLies leftNames)
    (colon_not_mem_of_components rightLies rightNames) same
  rw [withoutRootFile_concat, withoutRootFile_concat] at segments
  by_cases leftDropped : IsDropped leftDirectories leftStem
  · rw [if_pos leftDropped] at segments
    subst segments
    by_cases rightDropped : IsDropped rightDirectories rightStem
    · rw [if_pos rightDropped] at leftLies leftDropped
      by_cases root : rightDirectories = []
      · subst root
        exact .rootModule (mem_rootNames_of_isDropped leftDropped)
          (mem_rootNames_of_isDropped rightDropped) leftLies rightLies
      · rw [leftDropped.eq_mod root, ← rightDropped.eq_mod root, ← rightLies] at leftLies
        exact .same leftLies
    · rw [if_neg rightDropped] at leftLies leftDropped
      rw [leftDropped.eq_mod (by simp), List.append_assoc] at leftLies
      exact .inside leftLies rightLies
  · rw [if_neg leftDropped] at segments
    by_cases rightDropped : IsDropped rightDirectories rightStem
    · rw [if_pos rightDropped] at segments
      rw [← segments] at rightLies rightDropped
      rw [rightDropped.eq_mod (by simp), List.append_assoc] at rightLies
      exact .beside leftLies rightLies
    · rw [if_neg rightDropped] at segments
      rcases List.append_inj' segments rfl with ⟨sameDirectories, sameStem⟩
      rw [sameDirectories, (List.cons.inj sameStem).1, ← rightLies] at leftLies
      exact .same leftLies

/-- Whether a text may be a segment of a module path and the name of a directory. -/
structure IsModuleSegment (segment : String) : Prop where
  isName : Source.isName segment.toList = true
  noSlash : '/' ∉ segment.toList

theorem IsModuleSegment.isSegmentName {segment : String} (plain : IsModuleSegment segment) :
    IsSegmentName segment := by
  have differs : ∀ text : String, Source.isName text.toList = false → segment ≠ text := by
    rintro text notName rfl
    rw [plain.isName] at notName
    cases notName
  exact ⟨differs "" (by decide), differs "." (by decide), differs ".." (by decide), plain.noSlash⟩

theorem isSegmentName_source {stem : String} (noSlash : '/' ∉ stem.toList) :
    IsSegmentName (stem ++ ".rs") := by
  have differs : ∀ text : String, text.length < 3 → stem ++ ".rs" ≠ text := by
    rintro text short rfl
    rw [String.length_append] at short
    have ending : ".rs".length = 3 := by decide
    omega
  refine ⟨differs "" (by decide), differs "." (by decide), differs ".." (by decide), ?_⟩
  rw [String.toList_append, List.mem_append, not_or]
  exact ⟨noSlash, by decide⟩

/-- The module path of a file goes through the directories to it and its stem, unless the stem is
dropped. -/
theorem ofFile?_below (root : FilePath) (start : String) {directories : List String}
    {stem : String} (plain : ∀ directory ∈ directories, IsModuleSegment directory)
    (stemPlain : stem = "mod" ∨ IsModuleSegment stem) :
    ofFile? root (FoundFile.below root (directories ++ [stem ++ ".rs"])).path start =
      some ("::".intercalate (start ::
        if IsDropped directories stem then directories else directories ++ [stem])) := by
  have stemNonempty : stem ≠ "" := by
    rcases stemPlain with rfl | isSegment
    · decide
    · exact isSegment.isSegmentName.ne_empty
  have stemNoSlash : '/' ∉ stem.toList := by
    rcases stemPlain with rfl | isSegment
    · decide
    · exact isSegment.noSlash
  have named : ∀ name ∈ directories ++ [stem ++ ".rs"], IsSegmentName name := by
    intro name member
    rcases List.mem_append.1 member with inDirectories | isFile
    · exact (plain name inDirectories).isSegmentName
    · rw [List.mem_singleton.1 isFile]
      exact isSegmentName_source stemNoSlash
  rw [ofFile?_eq_some]
  refine ⟨directories, stem, stemNonempty, FoundFile.components_path_below root named, ?_, ?_⟩
  · intro segment member
    rw [withoutRootFile_concat] at member
    split at member
    · exact (plain segment member).isName
    · rename_i kept
      rcases List.mem_append.1 member with inDirectories | isStem
      · exact (plain segment inDirectories).isName
      · rw [List.mem_singleton.1 isStem]
        exact (stemPlain.resolve_left fun isModule => kept (Or.inl isModule)).isName
  · rw [extend_eq_intercalate, withoutRootFile_concat]

/-- Two files with one module path are the same below the root, or hold its root module, or are the
file beside a directory and `mod.rs` in it. The module path of a file consists of the names that
lead to it and its stem; a stem `mod` is dropped, and so are `lib` and `main` at the root. -/
theorem module_paths_tell_files (root : FilePath) (start : String) :
    (∀ left right module, ofFile? root left start = some module →
      ofFile? root right start = some module → IsAlias root left right) ∧
    ∀ directories stem, (∀ directory ∈ directories, IsModuleSegment directory) →
      stem = "mod" ∨ IsModuleSegment stem →
      ofFile? root (FoundFile.below root (directories ++ [stem ++ ".rs"])).path start =
        some ("::".intercalate (start ::
          if IsDropped directories stem then directories else directories ++ [stem])) :=
  ⟨fun _ _ _ => isAlias_of_ofFile?, fun _ _ => ofFile?_below root start⟩

end ModulePath

/-- The files `src/a.rs` and `src/a/mod.rs` hold one module and are aliases; a file `lib.rs` that is
not at the root keeps its stem. -/
theorem Sample.module_paths_tell_files_nested :
    ModulePath.ofFile? ⟨"src"⟩ ⟨"src/a.rs"⟩ "crate" = some "crate::a" ∧
      ModulePath.ofFile? ⟨"src"⟩ ⟨"src/a/mod.rs"⟩ "crate" = some "crate::a" ∧
      ModulePath.IsAlias ⟨"src"⟩ ⟨"src/a.rs"⟩ ⟨"src/a/mod.rs"⟩ ∧
      ModulePath.ofFile? ⟨"src"⟩ ⟨"src/a/lib.rs"⟩ "crate" = some "crate::a::lib" := by
  have beside : ModulePath.ofFile? ⟨"src"⟩ ⟨"src/a.rs"⟩ "crate" = some "crate::a" := by
    decide
  have inside : ModulePath.ofFile? ⟨"src"⟩ ⟨"src/a/mod.rs"⟩ "crate" = some "crate::a" := by
    decide
  rcases ModulePath.module_paths_tell_files ⟨"src"⟩ "crate" with ⟨aliases, segments⟩
  have nested := segments ["a"] "lib"
    (by simpa using ⟨by decide, by decide⟩) (Or.inr ⟨by decide, by decide⟩)
  exact ⟨beside, inside, aliases _ _ _ beside inside, nested⟩

end Registrar
