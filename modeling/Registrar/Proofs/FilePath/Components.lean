import Registrar.Workspace

/-!
# Components of joined paths

A relative path that is joined to another one adds its own components to those of that one,
whatever slashes and segments `.` the two texts hold. Names of files are single components, so the
path of a file below a directory is told by the names that lead to it.
-/

namespace Registrar

/-- Whether a text is a single segment of a path that is taken as a name. -/
structure IsSegmentName (name : String) : Prop where
  ne_empty : name ≠ ""
  ne_current : name ≠ "."
  ne_parent : name ≠ ".."
  no_slash : '/' ∉ name.toList

/-- Whether a text can be the name of a file or directory. -/
structure IsFileName (name : String) : Prop extends IsSegmentName name where
  no_zero : '\x00' ∉ name.toList
  short : name.utf8ByteSize ≤ FileTree.nameLimit

theorem isFileName_iff {name : String} : IsFileName name ↔
    (name ≠ "" ∧ name ≠ "." ∧ name ≠ ".." ∧ '/' ∉ name.toList) ∧ '\x00' ∉ name.toList ∧
      name.utf8ByteSize ≤ FileTree.nameLimit :=
  ⟨fun ⟨⟨nonempty, notCurrent, notParent, noSlash⟩, noZero, short⟩ =>
    ⟨⟨nonempty, notCurrent, notParent, noSlash⟩, noZero, short⟩,
   fun ⟨⟨nonempty, notCurrent, notParent, noSlash⟩, noZero, short⟩ =>
    ⟨⟨nonempty, notCurrent, notParent, noSlash⟩, noZero, short⟩⟩

instance (name : String) : Decidable (IsFileName name) := decidable_of_iff _ isFileName_iff.symm

namespace FilePath

theorem slash_not_mem_of_mem_splitOn {text segment : List Char}
    (member : segment ∈ text.splitOn '/') : '/' ∉ segment := by
  induction text generalizing segment with
  | nil =>
      rw [List.splitOn_nil, List.mem_singleton] at member
      simp [member]
  | cons character rest ih =>
      rw [List.splitOn_cons_eq_if_modifyHead] at member
      split at member
      · rcases List.mem_cons.1 member with rfl | later
        · simp
        · exact ih later
      · rename_i notSlash
        rcases segments : rest.splitOn '/' with _ | ⟨first, others⟩
        · exact absurd segments (List.splitOn_ne_nil _ _)
        · rw [segments] at member ih
          rcases List.mem_cons.1 member with rfl | later
          · have firstPlain := ih List.mem_cons_self
            simp only [List.mem_cons, not_or]
            exact ⟨fun equal => notSlash (beq_iff_eq.2 equal.symm), firstPlain⟩
          · exact ih (List.mem_cons_of_mem _ later)

theorem splitOn_eq_singleton_nil {text : List Char} :
    text.splitOn '/' = [[]] ↔ text = [] := by
  constructor
  · intro split
    have joined := @List.intercalate_splitOn _ text _ _ '/'
    rw [split] at joined
    simpa using joined.symm
  · rintro rfl
    rfl

/-- The components that the segments of a path add where none of them is the first one. -/
def innerComponents (path : FilePath) : List Component :=
  (path.text.toList.splitOn '/').filterMap componentOfSegment?

/-- The components of the segments before a slash. -/
def leadingComponents : List (List Char) → List Component
  | [] => []
  | [] :: rest => .root :: rest.filterMap componentOfSegment?
  | ['.'] :: rest => .current :: rest.filterMap componentOfSegment?
  | segments => segments.filterMap componentOfSegment?

theorem componentsOfSegments_append {left right : List (List Char)} (leftNonempty : left ≠ [])
    (rightNonempty : right ≠ []) :
    componentsOfSegments (left ++ right) =
      leadingComponents left ++ right.filterMap componentOfSegment? := by
  rcases left with _ | ⟨first, rest⟩
  · exact absurd rfl leftNonempty
  · have tailNonempty : rest ++ right ≠ [] := by simp [rightNonempty]
    rw [List.cons_append]
    generalize tailEq : rest ++ right = tail at tailNonempty
    have tailComponents : tail.filterMap componentOfSegment? =
        rest.filterMap componentOfSegment? ++ right.filterMap componentOfSegment? := by
      rw [← tailEq, List.filterMap_append]
    rw [componentsOfSegments.eq_def, leadingComponents.eq_def]
    split <;> split <;> simp_all [List.filterMap_cons]
    cases componentOfSegment? first <;> simp

theorem componentsOfSegments_eq {segments : List (List Char)} (nonempty : segments ≠ [[]]) :
    componentsOfSegments segments = leadingComponents segments := by
  rw [componentsOfSegments.eq_def, leadingComponents.eq_def]
  split <;> simp_all

/-- What a path adds to the text of a path before it. -/
theorem toList_text_join {base path : FilePath} (relative : path.isAbsolute = false) :
    (base.join path).text.toList =
      if base.text.isEmpty || base.text.toList.getLast? == some '/' then
        base.text.toList ++ path.text.toList
      else base.text.toList ++ '/' :: path.text.toList := by
  rw [join, if_neg (by simp [relative])]
  split <;> simp

/-- The segments of a joined path: those of the path before it, but for an empty one after a slash
at its end, and then those of the path itself. -/
theorem splitOn_join {base path : FilePath} (nonempty : base.text ≠ "")
    (relative : path.isAbsolute = false) :
    ∃ front, front ≠ [] ∧
      (base.text.toList.splitOn '/' = front ∧ front ≠ [[]] ∨
        base.text.toList.splitOn '/' = front ++ [[]]) ∧
      (base.join path).text.toList.splitOn '/' = front ++ path.text.toList.splitOn '/' := by
  have listNonempty : base.text.toList ≠ [] := by simpa using nonempty
  have notEmpty : base.text.isEmpty = false := by simpa [String.isEmpty_iff] using nonempty
  rw [toList_text_join relative, notEmpty, Bool.false_or]
  by_cases slash : base.text.toList.getLast? = some '/'
  · rcases List.getLast?_eq_some_iff.1 slash with ⟨before, beforeEq⟩
    refine ⟨before.splitOn '/', List.splitOn_ne_nil _ _, Or.inr ?_, ?_⟩
    · rw [beforeEq, List.splitOn_append_cons_self]
      rfl
    · rw [if_pos (by simpa using slash), beforeEq, List.append_assoc, List.singleton_append,
        List.splitOn_append_cons_self]
  · refine ⟨base.text.toList.splitOn '/', List.splitOn_ne_nil _ _, Or.inl ⟨rfl, ?_⟩, ?_⟩
    · rw [Ne, splitOn_eq_singleton_nil]
      exact listNonempty
    · rw [if_neg (by simpa using slash), List.splitOn_append_cons_self]

/-- A relative path that is joined to another one adds its components. -/
theorem components_join {base path : FilePath} (nonempty : base.text ≠ "")
    (relative : path.isAbsolute = false) :
    (base.join path).components = base.components ++ path.innerComponents := by
  rcases splitOn_join nonempty relative with
    ⟨front, frontNonempty, baseSegments, joinSegments⟩
  have baseComponents : base.components = leadingComponents front := by
    rcases baseSegments with ⟨equal, notSingle⟩ | equal
    · rw [components, equal, componentsOfSegments_eq notSingle]
    · rw [components, equal, componentsOfSegments_append frontNonempty (by simp)]
      simp [componentOfSegment?]
  rw [components, joinSegments, baseComponents, innerComponents,
    componentsOfSegments_append frontNonempty (List.splitOn_ne_nil _ _)]

theorem isUnder_iff {path directory : FilePath} :
    path.isUnder directory = true ↔ directory.components <+: path.components := by
  rw [isUnder, List.isPrefixOf_iff_prefix]

/-- The components that follow those of a directory are those that a path goes on with. -/
theorem componentsBelow?_eq_some {path directory : FilePath} {rest : List Component} :
    path.componentsBelow? directory = some rest ↔
      path.components = directory.components ++ rest := by
  rw [componentsBelow?]
  constructor
  · intro found
    split at found
    · rename_i starts
      rcases List.isPrefixOf_iff_prefix.1 starts with ⟨tail, whole⟩
      rw [← whole, List.drop_left, Option.some.injEq] at found
      rw [← whole, found]
    · cases found
  · intro whole
    rw [if_pos (List.isPrefixOf_iff_prefix.2 ⟨rest, whole.symm⟩), whole, List.drop_left]

theorem componentsBelow?_join {base path : FilePath} (nonempty : base.text ≠ "")
    (relative : path.isAbsolute = false) :
    (base.join path).componentsBelow? base = some path.innerComponents := by
  rw [componentsBelow?_eq_some, components_join nonempty relative]

theorem text_join_ne_empty {base path : FilePath} (nonempty : base.text ≠ "")
    (relative : path.isAbsolute = false) : (base.join path).text ≠ "" := by
  have listNonempty : base.text.toList ≠ [] := by simpa using nonempty
  have joined := @toList_text_join base path relative
  intro empty
  rw [empty] at joined
  split at joined <;> simp_all

theorem isAbsolute_join {base path : FilePath} (nonempty : base.text ≠ "")
    (relative : path.isAbsolute = false) : (base.join path).isAbsolute = base.isAbsolute := by
  have listNonempty : base.text.toList ≠ [] := by simpa using nonempty
  rcases List.exists_cons_of_ne_nil listNonempty with ⟨first, others, characters⟩
  simp only [isAbsolute, toList_text_join relative, characters]
  split <;> simp

end FilePath

namespace IsSegmentName

variable {name : String}

theorem toList_ne_nil (named : IsSegmentName name) : name.toList ≠ [] := by
  simpa using named.ne_empty

theorem componentOfSegment? (named : IsSegmentName name) :
    FilePath.componentOfSegment? name.toList = some (.name name) := by
  have notCurrent : name.toList ≠ ['.'] := fun equal =>
    named.ne_current (String.toList_inj.1 (equal.trans rfl))
  have notParent : name.toList ≠ ['.', '.'] := fun equal =>
    named.ne_parent (String.toList_inj.1 (equal.trans rfl))
  rw [FilePath.componentOfSegment?.eq_def]
  split
  · rename_i empty
    exact absurd empty named.toList_ne_nil
  · rename_i current
    exact absurd current notCurrent
  · rename_i parent
    exact absurd parent notParent
  · rw [String.ofList_toList]

/-- What is read as the component of a name is such a name. -/
theorem of_componentOfSegment? {segment : List Char} (noSlash : '/' ∉ segment)
    (component : FilePath.componentOfSegment? segment = some (.name name)) :
    IsSegmentName name := by
  rw [FilePath.componentOfSegment?.eq_def] at component
  split at component
  · cases component
  · cases component
  · cases component
  · rename_i empty current parent
    simp only [Option.some.injEq, Component.name.injEq] at component
    subst component
    refine ⟨?_, ?_, ?_, by simpa using noSlash⟩
    · exact fun equal => empty (by rw [← @String.toList_ofList segment, equal]; rfl)
    · exact fun equal => current (by rw [← @String.toList_ofList segment, equal]; rfl)
    · exact fun equal => parent (by rw [← @String.toList_ofList segment, equal]; rfl)

theorem isAbsolute_eq_false (named : IsSegmentName name) :
    (FilePath.mk name).isAbsolute = false := by
  rcases characters : name.toList with _ | ⟨first, others⟩
  · simp [FilePath.isAbsolute, characters]
  · have notSlash : first ≠ '/' := by
      rintro rfl
      exact named.no_slash (by simp [characters])
    simp [FilePath.isAbsolute, characters, notSlash]

theorem innerComponents (named : IsSegmentName name) :
    (FilePath.mk name).innerComponents = [.name name] := by
  rw [FilePath.innerComponents, List.splitOn_eq_singleton named.no_slash]
  simp [named.componentOfSegment?]

end IsSegmentName

namespace FilePath

/-- The path that is made of names is split into these names. -/
theorem splitOn_intercalate_names {names : Location} (nonempty : names ≠ [])
    (named : ∀ name ∈ names, IsSegmentName name) :
    ("/".intercalate names).toList.splitOn '/' = names.map String.toList := by
  rw [String.toList_intercalate]
  apply List.splitOn_intercalate
  · intro segment member
    rcases List.mem_map.1 member with ⟨name, nameMember, rfl⟩
    exact (named name nameMember).no_slash
  · simpa using nonempty

/-- The path that is made of names has these names as its components. -/
theorem components_intercalate {names : Location} (nonempty : names ≠ [])
    (named : ∀ name ∈ names, IsSegmentName name) :
    (FilePath.mk ("/".intercalate names)).components = names.map .name := by
  have segments := splitOn_intercalate_names nonempty named
  have inner : (names.map String.toList).filterMap componentOfSegment? = names.map .name := by
    clear segments nonempty
    induction names with
    | nil => rfl
    | cons name others ih =>
        have nameFits := named name List.mem_cons_self
        rw [List.map_cons, List.filterMap_cons, nameFits.componentOfSegment?,
          ih fun other member => named other (List.mem_cons_of_mem _ member), List.map_cons]
  rcases names with _ | ⟨first, others⟩
  · exact absurd rfl nonempty
  · have firstFits := named first List.mem_cons_self
    have firstComponent := firstFits.componentOfSegment?
    rw [components, segments, ← inner, List.map_cons, componentsOfSegments.eq_def]
    split <;> simp_all [componentOfSegment?]

end FilePath

end Registrar
