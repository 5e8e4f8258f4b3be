import Registrar.Proofs.FilePath.Components
import Registrar.Publication

/-!
# Segments and components

The components of a path that lead elsewhere are its segments but for the idle ones. The same holds
for the directory of a path, whose text has been cut: its segments are those of the path but for the
last one, and possibly for idle ones.
-/

namespace Registrar

/-- The segment that a component stands for where it leads elsewhere within the tree. -/
def Component.segment? : Component → Option String
  | .root => none
  | .current => none
  | .parent => some ".."
  | .name text => some text

namespace FilePath

theorem splitOn_eq_map_segments (path : FilePath) :
    path.text.toList.splitOn '/' = path.segments.map String.toList := by
  simp [segments]

theorem isIdle_toList {segment : String} :
    isIdle segment.toList = true ↔ segment = "" ∨ segment = "." := by
  have current : segment.toList = ['.'] ↔ segment = "." := by
    rw [← String.toList_inj]
    rfl
  simp [isIdle, current]

theorem segment?_componentOfSegment? (segment : List Char) :
    (componentOfSegment? segment).bind Component.segment? =
      if isIdle segment then none else some (String.ofList segment) := by
  rw [componentOfSegment?.eq_def]
  split
  · rfl
  · rfl
  · rfl
  · rename_i empty current _
    have moves : isIdle segment = false := by
      simp only [isIdle, Bool.or_eq_false_iff, beq_eq_false_iff_ne]
      exact ⟨empty, current⟩
    simp [moves, Component.segment?]

theorem filterMap_segment?_componentOfSegment? (segments : List (List Char)) :
    (segments.filterMap componentOfSegment?).filterMap Component.segment? =
      (segments.filter fun segment => !isIdle segment).map String.ofList := by
  induction segments with
  | nil => rfl
  | cons segment rest ih =>
      have first := segment?_componentOfSegment? segment
      rw [List.filterMap_filterMap] at ih ⊢
      rw [List.filterMap_cons, first, ih]
      cases idle : isIdle segment <;> simp [idle]

/-- The components of segments lead through these segments, but for the idle ones. -/
theorem filterMap_segment?_componentsOfSegments (segments : List (List Char)) :
    (componentsOfSegments segments).filterMap Component.segment? =
      (segments.filter fun segment => !isIdle segment).map String.ofList := by
  rw [componentsOfSegments.eq_def]
  split
  · rfl
  · rfl
  · rw [List.filterMap_cons, Component.segment?, filterMap_segment?_componentOfSegment?]
    rfl
  · rw [List.filterMap_cons, Component.segment?, filterMap_segment?_componentOfSegment?]
    rfl
  · exact filterMap_segment?_componentOfSegment? segments

/-- The components of a path lead through its segments, but for the idle ones. -/
theorem filterMap_segment?_components (path : FilePath) :
    path.components.filterMap Component.segment? =
      path.segments.filter fun segment => !isIdle segment.toList := by
  rw [components, filterMap_segment?_componentsOfSegments, segments, List.filter_map]
  congr 2
  funext segment
  simp

theorem isSome_segment?_of_mem_filterMap {segments : List (List Char)} {component : Component}
    (member : component ∈ segments.filterMap componentOfSegment?) :
    component.segment?.isSome = true := by
  rcases List.mem_filterMap.1 member with ⟨segment, _, found⟩
  rw [componentOfSegment?.eq_def] at found
  split at found
  · cases found
  · cases found
  · rcases found with ⟨⟩
    rfl
  · rcases found with ⟨⟩
    rfl

theorem root_not_mem_filterMap (segments : List (List Char)) :
    Component.root ∉ segments.filterMap componentOfSegment? := by
  intro member
  cases isSome_segment?_of_mem_filterMap member

/-- What a path adds to one before it are its components that lead elsewhere. -/
theorem innerComponents_eq_filter (path : FilePath) :
    path.innerComponents = path.components.filter fun component => component.segment?.isSome := by
  have kept : ∀ segments : List (List Char),
      (segments.filterMap componentOfSegment?).filter (fun component => component.segment?.isSome) =
        segments.filterMap componentOfSegment? := fun _ =>
    List.filter_eq_self.2 fun _ => isSome_segment?_of_mem_filterMap
  rw [innerComponents, components]
  generalize path.text.toList.splitOn '/' = segments
  rw [componentsOfSegments.eq_def]
  split
  · rfl
  · rfl
  · rw [List.filter_cons_of_neg (by simp [Component.segment?]), kept]
    rfl
  · rw [List.filter_cons_of_neg (by simp [Component.segment?]), kept]
    rfl
  · rw [kept]

theorem splitOn_eq_nil_cons {text : List Char} :
    (∃ rest, rest ≠ [] ∧ text.splitOn '/' = [] :: rest) ↔ text.head? = some '/' := by
  cases text with
  | nil => simp
  | cons character others =>
      rw [List.splitOn_cons_eq_if_modifyHead]
      split
      · rename_i slash
        simp [beq_iff_eq.1 slash, List.splitOn_ne_nil]
      · rename_i differs
        rw [beq_iff_eq] at differs
        rcases segments : others.splitOn '/' with _ | ⟨first, rest⟩
        · exact absurd segments (List.splitOn_ne_nil _ _)
        · simp [differs]

/-- The root is the first component of a path that starts there, and no other component. -/
theorem exists_rootless_components (path : FilePath) :
    ∃ rest, Component.root ∉ rest ∧
      path.components = if path.isAbsolute then .root :: rest else rest := by
  have absolute := @splitOn_eq_nil_cons path.text.toList
  rw [components, componentsOfSegments.eq_def]
  split
  · rename_i empty
    exact absurd empty (List.splitOn_ne_nil _ _)
  · rename_i single
    have relative : path.isAbsolute = false := by
      simp [isAbsolute, splitOn_eq_singleton_nil.1 single]
    exact ⟨[], by simp, by simp [relative]⟩
  · rename_i rest notSingle segments
    have starts : path.isAbsolute = true := by
      rw [segments] at absolute
      simpa [isAbsolute] using absolute.1 ⟨rest, by simpa using notSingle, rfl⟩
    exact ⟨_, root_not_mem_filterMap rest, by simp [starts]⟩
  · rename_i rest segments
    have relative : path.isAbsolute = false := by
      rw [segments] at absolute
      simpa [isAbsolute] using absolute
    refine ⟨.current :: rest.filterMap componentOfSegment?, ?_, by simp [relative]⟩
    rw [List.mem_cons, not_or]
    exact ⟨by simp, root_not_mem_filterMap rest⟩
  · rename_i notNil notSingle notRoot notCurrent
    have relative : path.isAbsolute = false := by
      rw [Bool.eq_false_iff]
      intro starts
      rcases absolute.2 (by simpa [isAbsolute] using starts) with ⟨rest, nonempty, segments⟩
      exact notRoot rest segments
    refine ⟨(path.text.toList.splitOn '/').filterMap componentOfSegment?,
      root_not_mem_filterMap _, by simp [relative]⟩

/-- A path none of whose components leads upwards has no segment that does. -/
theorem parent_not_mem_segments {path : FilePath} (descends : Component.parent ∉ path.components) :
    ".." ∉ path.segments := by
  intro member
  rcases List.mem_map.1 member with ⟨segment, segmentMember, equal⟩
  have characters : segment = ['.', '.'] := by
    rw [← @String.toList_ofList segment, equal]
    rfl
  subst characters
  have inner : ∀ segments : List (List Char), ['.', '.'] ∈ segments →
      Component.parent ∈ segments.filterMap componentOfSegment? := fun segments inSegments =>
    List.mem_filterMap.2 ⟨_, inSegments, rfl⟩
  apply descends
  rw [components, componentsOfSegments.eq_def]
  split
  · rename_i segments
    simp [segments] at segmentMember
  · rename_i segments
    simp [segments] at segmentMember
  · rename_i rest _ segments
    rw [segments] at segmentMember
    exact List.mem_cons_of_mem _ (inner rest (by simpa using segmentMember))
  · rename_i rest segments
    rw [segments] at segmentMember
    exact List.mem_cons_of_mem _ (inner rest (by simpa using segmentMember))
  · exact inner _ segmentMember

theorem filter_dropWhile_isIdle (segments : List (List Char)) :
    (segments.dropWhile isIdle).filter (fun segment => !isIdle segment) =
      segments.filter fun segment => !isIdle segment := by
  induction segments with
  | nil => rfl
  | cons segment rest ih =>
      cases idle : isIdle segment
      · rw [List.dropWhile_cons_of_neg (by simp [idle])]
      · rw [List.dropWhile_cons_of_pos idle, ih, List.filter_cons_of_neg (by simp [idle])]

theorem filter_withoutIdleEnd (segments : List (List Char)) :
    (withoutIdleEnd segments).filter (fun segment => !isIdle segment) =
      segments.filter fun segment => !isIdle segment := by
  cases segments with
  | nil => rfl
  | cons first rest =>
      rw [withoutIdleEnd, List.filter_cons, List.filter_cons, List.filter_reverse,
        filter_dropWhile_isIdle, List.filter_reverse, List.reverse_reverse]

theorem mem_of_mem_withoutIdleEnd {segments : List (List Char)} {segment : List Char}
    (member : segment ∈ withoutIdleEnd segments) : segment ∈ segments := by
  cases segments with
  | nil => exact member
  | cons first rest =>
      rcases List.mem_cons.1 member with rfl | later
      · exact List.mem_cons_self
      · have inDropped := (List.dropWhile_sublist isIdle).mem (List.mem_reverse.1 later)
        exact List.mem_cons_of_mem _ (List.mem_reverse.1 inDropped)

theorem withoutIdleEnd_append {init idles : List (List Char)} {last : List Char}
    (moves : isIdle last = false) (idle : ∀ segment ∈ idles, isIdle segment = true) :
    withoutIdleEnd (init ++ last :: idles) = init ++ [last] := by
  have dropped : ∀ rest, (idles.reverse ++ rest).dropWhile isIdle = rest.dropWhile isIdle :=
    fun rest => List.dropWhile_append_of_pos fun segment member =>
      idle segment (List.mem_reverse.1 member)
  cases init with
  | nil =>
      have none := dropped []
      rw [List.append_nil, List.dropWhile_nil] at none
      simp [withoutIdleEnd, none]
  | cons first rest => simp [withoutIdleEnd, dropped, moves]

/-- The text of segments is split into these segments, apart from the text of the root. -/
theorem splitOn_textOfSegments {segments : List (List Char)} (nonempty : segments ≠ [])
    (plain : ∀ segment ∈ segments, '/' ∉ segment) :
    (textOfSegments segments).splitOn '/' =
      if segments = [[]] then [[], []] else segments := by
  rw [textOfSegments.eq_def]
  split
  · exact absurd rfl nonempty
  · rfl
  · rename_i notSingle
    rw [if_neg (by simpa using notSingle), List.splitOn_intercalate _ plain nonempty]

theorem textOfSegments_ne_nil {segments : List (List Char)} (nonempty : segments ≠ [])
    (plain : ∀ segment ∈ segments, '/' ∉ segment) : textOfSegments segments ≠ [] := by
  intro empty
  have segmentsSplit := splitOn_textOfSegments nonempty plain
  rw [empty, List.splitOn_nil] at segmentsSplit
  split at segmentsSplit
  · cases segmentsSplit
  · rename_i notSingle
    exact notSingle segmentsSplit.symm

/-- The text of segments leads where they do. -/
theorem filter_splitOn_textOfSegments {segments : List (List Char)}
    (nonempty : segments ≠ []) (plain : ∀ segment ∈ segments, '/' ∉ segment) :
    ((textOfSegments segments).splitOn '/').filter (fun segment => !isIdle segment) =
      segments.filter fun segment => !isIdle segment := by
  rw [splitOn_textOfSegments nonempty plain]
  split
  · rename_i single
    simp [single, isIdle]
  · rfl

theorem isAbsolute_iff {path : FilePath} : path.isAbsolute = true ↔
    ∃ rest, rest ≠ [] ∧ path.text.toList.splitOn '/' = [] :: rest := by
  rw [splitOn_eq_nil_cons, isAbsolute, beq_iff_eq]

/-- A path is absolute if there is nothing before its first slash. -/
theorem isAbsolute_eq_isEmpty {path : FilePath} {first : List Char} {rest : List (List Char)}
    (segments : path.text.toList.splitOn '/' = first :: rest) (nonempty : rest ≠ []) :
    path.isAbsolute = first.isEmpty := by
  rw [Bool.eq_iff_iff, isAbsolute_iff, segments, List.isEmpty_iff]
  constructor
  · rintro ⟨_, _, same⟩
    exact (List.cons.inj same).1
  · rintro rfl
    exact ⟨rest, nonempty, rfl⟩

/-- The text of segments is that of an absolute path if the first one is empty. -/
theorem isAbsolute_textOfSegments {first : List Char} {tail : List (List Char)}
    (plain : ∀ segment ∈ first :: tail, '/' ∉ segment) :
    (FilePath.mk (String.ofList (textOfSegments (first :: tail)))).isAbsolute = first.isEmpty := by
  generalize pathEq : FilePath.mk (String.ofList (textOfSegments (first :: tail))) = path
  have segmentsSplit : path.text.toList.splitOn '/' =
      if first :: tail = [[]] then [[], []] else first :: tail := by
    rw [← pathEq, String.toList_ofList]
    exact splitOn_textOfSegments (List.cons_ne_nil first tail) plain
  split at segmentsSplit
  · rename_i single
    rw [isAbsolute_eq_isEmpty segmentsSplit (by simp), (List.cons.inj single).1]
  · rename_i notSingle
    rcases tail with _ | ⟨second, others⟩
    · rw [Bool.eq_iff_iff, isAbsolute_iff, segmentsSplit, List.isEmpty_iff]
      simp_all
    · exact isAbsolute_eq_isEmpty segmentsSplit (List.cons_ne_nil second others)

/-- A path that ends in a name, but for idle segments, has the path to its directory as its
parent. -/
theorem parent?_of_segments {path : FilePath} {init idles : List (List Char)} {name : String}
    (segments : path.text.toList.splitOn '/' = init ++ name.toList :: idles)
    (moves : isIdle name.toList = false) (idle : ∀ segment ∈ idles, isIdle segment = true) :
    path.parent? = some ⟨String.ofList (textOfSegments (withoutIdleEnd init))⟩ := by
  have inSegments : name ∈ path.components.filterMap Component.segment? := by
    rw [components, filterMap_segment?_componentsOfSegments, segments, List.filter_append]
    simp [moves]
  rcases List.mem_filterMap.1 inSegments with ⟨component, member, segment⟩
  rw [parent?]
  split
  · rename_i empty
    simp [empty] at member
  · rename_i root
    rw [root, List.mem_singleton] at member
    subst member
    cases segment
  · rw [segments, withoutIdleEnd_append moves idle, List.dropLast_concat]

/-- The components of a path that does not lead upwards are names, but for a first one. -/
theorem exists_name_of_mem_innerComponents {path : FilePath} {component : Component}
    (member : component ∈ path.innerComponents) (notParent : component ≠ .parent) :
    ∃ name, component = .name name ∧ IsSegmentName name := by
  rcases List.mem_filterMap.1 member with ⟨segment, segmentMember, found⟩
  have noSlash := slash_not_mem_of_mem_splitOn segmentMember
  cases component with
  | root => exact absurd member (root_not_mem_filterMap _)
  | current =>
    rw [componentOfSegment?.eq_def] at found
    split at found <;> simp at found
  | parent => exact absurd rfl notParent
  | name name => exact ⟨name, rfl, .of_componentOfSegment? noSlash found⟩

theorem map_name_filterMap_segment? {components : List Component}
    (named : ∀ component ∈ components, ∃ name, component = .name name ∧ IsSegmentName name) :
    (components.filterMap Component.segment?).map Component.name = components := by
  induction components with
  | nil => rfl
  | cons component rest ih =>
    rcases named component List.mem_cons_self with ⟨name, rfl, _⟩
    rw [List.filterMap_cons, Component.segment?, List.map_cons,
      ih fun other member => named other (List.mem_cons_of_mem _ member)]

theorem components_intercalate_segments {components : List Component} (nonempty : components ≠ [])
    (named : ∀ component ∈ components, ∃ name, component = .name name ∧ IsSegmentName name) :
    (FilePath.mk ("/".intercalate (components.filterMap Component.segment?))).components =
      components := by
  have names := map_name_filterMap_segment? named
  have namesNonempty : components.filterMap Component.segment? ≠ [] := by
    intro empty
    rw [empty] at names
    exact nonempty names.symm
  rw [components_intercalate namesNonempty, names]
  intro name member
  rcases List.mem_filterMap.1 member with ⟨component, componentMember, segment⟩
  rcases named component componentMember with ⟨found, rfl, isName⟩
  rcases Option.some.inj segment with ⟨⟩
  exact isName

end FilePath

namespace Workspace

open FilePath

/-- The directory of a path is the path without its last segment, as far as segments lead
elsewhere. -/
theorem segments_directoryOf {path : FilePath} {init idles : List String} {name : String}
    (segments : path.segments = init ++ name :: idles) (moves : isIdle name.toList = false)
    (idle : ∀ segment ∈ idles, isIdle segment.toList = true) :
    (directoryOf path).components.filterMap Component.segment? =
        init.filter (fun segment => !isIdle segment.toList) ∧
      (directoryOf path).isAbsolute = path.isAbsolute := by
  have parts : path.text.toList.splitOn '/' =
      init.map String.toList ++ name.toList :: idles.map String.toList := by
    rw [splitOn_eq_map_segments, segments, List.map_append, List.map_cons]
  have plain : ∀ segment ∈ init.map String.toList ++ name.toList :: idles.map String.toList,
      '/' ∉ segment := by
    rw [← parts]
    exact fun _ => slash_not_mem_of_mem_splitOn
  rw [directoryOf, parent?_of_segments parts moves (by simpa using idle)]
  rcases init with _ | ⟨first, others⟩
  · have notEmpty : name.toList ≠ [] := by
      intro empty
      simp [empty, isIdle] at moves
    have relative : path.isAbsolute = false := by
      rw [Bool.eq_false_iff, Ne, isAbsolute_iff, parts]
      rintro ⟨rest, _, equal⟩
      exact notEmpty (List.cons.inj equal).1
    rw [relative]
    exact ⟨by decide, by decide⟩
  · rw [List.map_cons] at parts plain ⊢
    generalize cut : withoutIdleEnd (first.toList :: others.map String.toList) = kept
    obtain ⟨tail, rfl⟩ : ∃ tail, kept = first.toList :: tail := ⟨_, cut.symm⟩
    have keptPlain : ∀ segment ∈ first.toList :: tail, '/' ∉ segment := by
      intro segment member
      rw [← cut] at member
      exact plain segment (List.mem_append_left _ (mem_of_mem_withoutIdleEnd member))
    have nonempty := List.cons_ne_nil first.toList tail
    have textNonempty :
        (String.ofList (textOfSegments (first.toList :: tail))).isEmpty = false := by
      rw [Bool.eq_false_iff, Ne, String.isEmpty_iff, ← String.toList_inj, String.toList_ofList]
      exact textOfSegments_ne_nil nonempty keptPlain
    simp only [textNonempty, Bool.false_eq_true, if_false]
    constructor
    · have filtered := filter_withoutIdleEnd ((first :: others).map String.toList)
      rw [List.map_cons, cut, ← List.map_cons, List.filter_map] at filtered
      rw [components, filterMap_segment?_componentsOfSegments, String.toList_ofList,
        filter_splitOn_textOfSegments nonempty keptPlain, filtered]
      simp [List.map_map, Function.comp_def]
    · rw [isAbsolute_textOfSegments keptPlain, isAbsolute_eq_isEmpty parts (by simp)]

end Workspace

end Registrar
