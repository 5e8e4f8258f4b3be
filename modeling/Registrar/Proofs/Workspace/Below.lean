import Registrar.Discovery
import Registrar.Proofs.Text.Bytes
import Registrar.Proofs.Workspace.Resolution

/-!
# Paths below a directory

Names that are joined to a path one by one lead on from where the path leads, as long as no link is
met. In a tree without links, a path that does not lead upwards leads through all of its names.
-/

namespace Registrar

section Names

variable {Name : Type} [FileName Name]

theorem FileName.le_length_joinTo (path : List UInt8) (name : Name) :
    path.length + (bytes name).length ≤ (joinTo path name).length := by
  rw [joinTo]
  split <;> simp only [List.length_append, List.length_cons] <;> omega


/-- A path gets no shorter by names that lead on. -/
theorem Location.length_le_length_joinTo (path : List UInt8) (names : Location Name) :
    path.length ≤ (joinTo path names).length := by
  induction names generalizing path with
  | nil => exact Nat.le_refl _
  | cons name others ih =>
      have added := FileName.le_length_joinTo path name
      exact Nat.le_trans (by omega) (ih (FileName.joinTo path name))

end Names

/-- A name is joined to the text of a path as it is joined to its bytes. -/
theorem FilePath.bytes_join {base : FilePath} {name : String}
    (relative : (FilePath.mk name).isAbsolute = false) :
    (base.join ⟨name⟩).bytes = FileName.joinTo base.bytes name := by
  have slash : (base.text.toList.getLast? == some '/') =
      (base.bytes.getLast? == some Glob.slash) := by
    rw [Bool.eq_iff_iff, beq_iff_eq, beq_iff_eq]
    exact (Text.getLast?_bytes (by decide)).symm
  have empty : base.text.isEmpty = base.bytes.isEmpty := by
    rw [Bool.eq_iff_iff, String.isEmpty_iff, List.isEmpty_iff, ← Text.bytes_empty]
    exact Text.bytes_inj.symm
  rw [join, if_neg (by simp [relative]), FileName.joinTo, ← slash, ← empty]
  split
  · exact Text.bytes_append base.text name
  · rw [bytes, Text.bytes_append, Text.bytes_append, List.append_assoc]
    rfl

namespace FoundFile

theorem components_path_below_of_nonempty {base : FilePath} {names : Location}
    (nonempty : base.text ≠ "") (named : ∀ name ∈ names, IsSegmentName name) :
    (below base names).path.components = base.components ++ names.map .name := by
  simp only [below]
  induction names generalizing base with
  | nil => simp
  | cons name others ih =>
      have nameFits := named name List.mem_cons_self
      have relative := nameFits.isAbsolute_eq_false
      rw [List.foldl_cons, ih (FilePath.text_join_ne_empty nonempty relative)
        fun other member => named other (List.mem_cons_of_mem _ member),
        FilePath.components_join nonempty relative, nameFits.innerComponents]
      simp

/-- The path of a file below a base directory leads through the base and then through the names. -/
theorem components_path_below (base : FilePath) {names : Location}
    (named : ∀ name ∈ names, IsSegmentName name) :
    (below base names).path.components = base.components ++ names.map .name := by
  by_cases empty : base.text = ""
  · have isEmpty : base = ⟨""⟩ := congrArg FilePath.mk empty
    subst isEmpty
    rcases names with _ | ⟨first, others⟩
    · exact (List.append_nil _).symm
    · have firstFits := named first List.mem_cons_self
      -- The first name is joined to nothing, so the other ones are below it.
      have start : (below ⟨""⟩ (first :: others)).path = (below ⟨first⟩ others).path := by
        have joined : FilePath.join ⟨""⟩ ⟨first⟩ = ⟨first⟩ := by
          simp [FilePath.join, firstFits.isAbsolute_eq_false]
        simp only [below, List.foldl_cons, joined]
      have alone := FilePath.components_intercalate (List.cons_ne_nil first [])
        (by simpa using firstFits)
      rw [String.intercalate_singleton] at alone
      rw [start, components_path_below_of_nonempty firstFits.ne_empty
        fun other member => named other (List.mem_cons_of_mem _ member), alone]
      rfl
  · exact components_path_below_of_nonempty empty named

theorem bytes_path_below (base : FilePath) {names : Location}
    (named : ∀ name ∈ names, IsSegmentName name) :
    (below base names).path.bytes = Location.joinTo base.bytes names := by
  simp only [below, Location.joinTo]
  induction names generalizing base with
  | nil => rfl
  | cons name others ih =>
      rw [List.foldl_cons, List.foldl_cons, ih (base.join ⟨name⟩) fun other member =>
          named other (List.mem_cons_of_mem _ member),
        FilePath.bytes_join (named name List.mem_cons_self).isAbsolute_eq_false]

/-- The directory in which a file lies can be opened if the file can. -/
theorem length_directory_lt_of_isOpenable {base : FilePath} {names : Location}
    (named : ∀ name ∈ names, IsSegmentName name) (openable : (below base names).path.IsOpenable) :
    (Location.joinTo base.bytes names.dropLast).length < Workspace.pathLimit := by
  have short := openable.short
  rw [← Text.length_bytes, ← FilePath.bytes, bytes_path_below base named] at short
  refine Nat.lt_of_le_of_lt ?_ short
  rcases List.eq_nil_or_concat names with rfl | ⟨front, last, rfl⟩
  · exact Nat.le_refl _
  · rw [List.concat_eq_append, List.dropLast_concat, Location.joinTo, Location.joinTo,
      List.foldl_append]
    exact Location.length_le_length_joinTo _ [last]

end FoundFile

namespace FileTree

variable {tree : FileTree} {used : Nat} {start place : Location} {segments : List String}

/-- Without links, segments that do not lead upwards lead through all names among them. -/
theorem Leads.eq_append_filter (leads : tree.Leads used start segments place)
    (noLinks : ∀ location target, tree.entry? location ≠ some (.link target))
    (descends : ".." ∉ segments) :
    place = start ++ segments.filter fun segment => !FilePath.isIdle segment.toList := by
  induction leads with
  | stop => simp
  | idle _ stays _ ih =>
      rw [List.mem_cons, not_or] at descends
      have idle := FilePath.isIdle_toList.2 stays
      rw [ih descends.2, List.filter_cons_of_neg (by simp [idle])]
  | up => exact absurd List.mem_cons_self descends
  | enter _ step _ _ _ ih =>
      rw [List.mem_cons, not_or] at descends
      have moves := step.isIdle_eq_false
      rw [ih descends.2, List.filter_cons_of_pos (by simp [moves])]
      simp
  | link _ _ present _ _ => exact absurd present (noLinks _ _)

/-- Where a link at the end is not followed, segments lead to what they lead to, or to a link. -/
theorem Leads.follow_false (leads : tree.Leads used start segments place) {links : Nat}
    (bound : used ≤ links) :
    tree.follow false links start segments = .ok place ∨
      ∃ location target, tree.follow false links start segments = .ok location ∧
        tree.entry? location = some (.link target) := by
  induction leads generalizing links with
  | stop => exact Or.inl (follow_nil _ _ _)
  | idle directory stays _ ih =>
      rw [follow_idle directory stays]
      exact ih bound
  | up directory _ ih =>
      rw [follow_up directory]
      exact ih bound
  | @enter _ _ _ _ _ entry directory step present noLink _ ih =>
      rw [follow_step directory step, present]
      rcases entry with content | _ | target
      · exact ih bound
      · exact ih bound
      · exact absurd rfl (noLink target)
  | @link _ start _ segment rest target directory step present _ ih =>
      rw [follow_step directory step, present]
      cases rest with
      | nil => exact Or.inr ⟨start ++ [segment], target, rfl, present⟩
      | cons next others =>
          rcases links with _ | links
          · omega
          · exact ih (by omega)

theorem IsStep.of_isFileName {name : String} (named : IsFileName name) : IsStep name :=
  ⟨named.ne_empty, named.ne_current, named.ne_parent, named.short⟩

theorem Leads.eq_of_empty (leads : tree.Leads used start [""] place) :
    used = 0 ∧ place = start := by
  generalize whole : [""] = segments at leads
  cases leads with
  | stop => cases whole
  | idle _ _ rest =>
      rcases List.cons.inj whole with ⟨_, rfl⟩
      cases rest
      exact ⟨rfl, rfl⟩
  | up => exact absurd (List.cons.inj whole).1 (by decide)
  | enter _ step => exact absurd (List.cons.inj whole).1.symm step.1
  | link _ step => exact absurd (List.cons.inj whole).1.symm step.1

/-- A name leads on from where a path leads. -/
theorem Leads.join {base : FilePath} {directory : Location} {name : String} {entry : Entry}
    (leads : tree.Leads used start base.segments directory) (nonempty : base.text ≠ "")
    (isDirectory : tree.entry? directory = some .directory) (named : IsFileName name)
    (present : tree.entry? (directory ++ [name]) = some entry)
    (noLink : ∀ target, entry ≠ .link target) :
    tree.Leads used start (base.join ⟨name⟩).segments (directory ++ [name]) := by
  rcases FilePath.splitOn_join nonempty named.isAbsolute_eq_false with
    ⟨front, _, baseSegments, joinSegments⟩
  have joined : (base.join ⟨name⟩).segments = front.map String.ofList ++ [name] := by
    rw [FilePath.segments, joinSegments, List.splitOn_eq_singleton named.no_slash]
    simp
  have frontLeads : tree.Leads used start (front.map String.ofList) directory := by
    rcases baseSegments with ⟨equal, _⟩ | equal
    · rwa [FilePath.segments, equal] at leads
    · rw [FilePath.segments, equal, List.map_append] at leads
      rcases leads.split with ⟨usedFront, usedEnd, middle, rfl, toMiddle, fromMiddle⟩
      rcases fromMiddle.eq_of_empty with ⟨rfl, rfl⟩
      exact toMiddle
  have whole := frontLeads.append
    (.enter isDirectory (.of_isFileName named) present noLink .stop)
  rwa [← joined] at whole

/-- Names lead on from where a path leads, to whatever is no link. -/
theorem Leads.joinAll {base : FilePath} {directory : Location} {names : Location} {entry : Entry}
    (wellFormed : tree.WellFormed) (leads : tree.Leads used start base.segments directory)
    (nonempty : base.text ≠ "") (isDirectory : tree.entry? directory = some .directory)
    (named : ∀ name ∈ names, IsFileName name)
    (present : tree.entry? (directory ++ names) = some entry)
    (noLink : ∀ target, entry ≠ .link target) :
    tree.Leads used start (FoundFile.below base names).path.segments (directory ++ names) := by
  simp only [FoundFile.below]
  induction names generalizing base directory with
  | nil => simpa using leads
  | cons name others ih =>
      have nameFits := named name List.mem_cons_self
      have othersNamed : ∀ other ∈ others, IsFileName other := fun other member =>
        named other (List.mem_cons_of_mem _ member)
      have joinNonempty := FilePath.text_join_ne_empty nonempty nameFits.isAbsolute_eq_false
      rw [List.append_cons] at present ⊢
      rw [List.foldl_cons]
      rcases others with _ | ⟨next, rest⟩
      · simp only [List.append_nil, List.foldl_nil] at present ⊢
        exact leads.join nonempty isDirectory nameFits present noLink
      · have nameDirectory := wellFormed.entry?_of_append (by simp) present
        exact ih (leads.join nonempty isDirectory nameFits nameDirectory (by simp)) joinNonempty
          nameDirectory othersNamed present

end FileTree

namespace Workspace

open FileTree

variable {workspace : Workspace} {base : FilePath} {directory names : Location} {entry : Entry}

theorem startOf_below (nonempty : base.text ≠ "") (named : ∀ name ∈ names, IsFileName name) :
    workspace.startOf (FoundFile.below base names).path = workspace.startOf base := by
  have absolute : (FoundFile.below base names).path.isAbsolute = base.isAbsolute := by
    simp only [FoundFile.below]
    induction names generalizing base with
    | nil => rfl
    | cons name others ih =>
        have relative := (named name List.mem_cons_self).isAbsolute_eq_false
        rw [List.foldl_cons, ih (FilePath.text_join_ne_empty nonempty relative)
          fun other member => named other (List.mem_cons_of_mem _ member),
          FilePath.isAbsolute_join nonempty relative]
  rw [startOf, startOf, absolute]

/-- Names below a path lead on from where it leads, unless they make it too long. -/
theorem locate_below (wellFormed : workspace.tree.WellFormed)
    (located : workspace.locate base true = .ok directory)
    (isDirectory : workspace.tree.entry? directory = some .directory)
    (named : ∀ name ∈ names, IsFileName name)
    (present : workspace.tree.entry? (directory ++ names) = some entry)
    (noLink : ∀ target, entry ≠ .link target)
    (openable : (FoundFile.below base names).path.IsOpenable) :
    workspace.locate (FoundFile.below base names).path true = .ok (directory ++ names) := by
  have baseOpenable := isOpenable_of_locate_eq_ok located
  rw [locate_of_isOpenable baseOpenable] at located
  rcases leads_of_follow located with ⟨used, bound, leads⟩
  have leadsBelow := leads.joinAll wellFormed baseOpenable.nonempty isDirectory named present noLink
  rw [locate_of_isOpenable openable, startOf_below baseOpenable.nonempty named,
    follow_of_leads leadsBelow, if_pos bound]

end Workspace

end Registrar
