import Mathlib.Data.List.Induction
import Registrar.Proofs.FilePath.Components

/-!
# What lies in a changed tree

A tree is looked at through `FileTree.entry?`. Each operation is told by what it changes at single
locations, and a well-formed tree stays well formed where an entry is put into a directory and no
directory is replaced. A plain tree is what a file system without links can hold.
-/

namespace Registrar.FileTree

section Names

variable {Name : Type} [DecidableEq Name] {tree : FileTree Name} {location other : Location Name}
  {entry : Entry}

@[simp]
theorem entry?_nil (tree : FileTree Name) : tree.entry? [] = some .directory := rfl

theorem entry?_of_ne_nil (nonroot : location ≠ []) :
    tree.entry? location = tree.entries.lookup location := by
  unfold entry?
  rw [if_neg nonroot]

theorem lookup_filter_ne (entries : List (Location Name × Entry)) (location other : Location Name) :
    (entries.filter fun entry => entry.1 ≠ location).lookup other =
      if other = location then none else entries.lookup other := by
  induction entries with
  | nil => simp
  | cons first rest ih =>
      by_cases removed : first.1 = location
      · rw [List.filter_cons_of_neg (by simpa using removed), ih]
        split
        · rfl
        · rename_i differs
          have unequal : (other == first.1) = false := by simpa [removed] using differs
          rw [List.lookup_cons, unequal]
      · rw [List.filter_cons_of_pos (by simpa using removed), List.lookup_cons, List.lookup_cons,
          ih]
        by_cases found : other = first.1
        · simp [found, removed]
        · have unequal : (other == first.1) = false := by simpa using found
          simp [unequal]

theorem entry?_remove (nonroot : location ≠ []) :
    entry? (tree.remove location) other = if other = location then none else tree.entry? other := by
  by_cases root : other = []
  · subst root
    simp [Ne.symm nonroot]
  · rw [entry?_of_ne_nil root, entry?_of_ne_nil root, remove, lookup_filter_ne]

@[simp]
theorem entry?_remove_self (nonroot : location ≠ []) :
    entry? (tree.remove location) location = none := by
  simp [entry?_remove nonroot]

theorem entry?_put (nonroot : location ≠ []) :
    entry? (tree.put location entry) other =
      if other = location then some entry else tree.entry? other := by
  by_cases root : other = []
  · subst root
    simp [Ne.symm nonroot]
  · have removed := @entry?_remove _ _ tree location other nonroot
    rw [entry?_of_ne_nil root] at removed
    rw [entry?_of_ne_nil root, put, List.lookup_append, removed]
    by_cases same : other = location
    · simp [same]
    · have absent : [(location, entry)].lookup other = none := by simpa using same
      rw [absent, Option.or_none, if_neg same, if_neg same]

@[simp]
theorem entry?_put_self (nonroot : location ≠ []) :
    entry? (tree.put location entry) location = some entry := by
  simp [entry?_put nonroot]

theorem entry?_put_of_ne (nonroot : location ≠ []) (differs : other ≠ location) :
    entry? (tree.put location entry) other = tree.entry? other := by
  simp [entry?_put nonroot, differs]

section Lookup

variable {entries : List (Location Name × Entry)}

theorem mem_of_lookup (found : entries.lookup location = some entry) :
    (location, entry) ∈ entries := by
  rw [List.lookup_eq_some_iff] at found
  rcases found with ⟨before, after, split, _⟩
  simp [split]

theorem lookup_of_mem (distinct : (entries.map Prod.fst).Nodup)
    (member : (location, entry) ∈ entries) : entries.lookup location = some entry := by
  induction entries with
  | nil => simp at member
  | cons first rest ih =>
      rw [List.map_cons, List.nodup_cons] at distinct
      rw [List.lookup_cons]
      rcases List.mem_cons.1 member with equal | later
      · simp [← equal]
      · have unequal : (location == first.1) = false := by
          simp only [beq_eq_false_iff_ne]
          intro equal
          exact distinct.1 (List.mem_map.2 ⟨_, later, equal⟩)
        simp [unequal, ih distinct.2 later]

end Lookup

theorem mem_entries_of_present (nonroot : location ≠ [])
    (present : tree.entry? location = some entry) : (location, entry) ∈ tree.entries := by
  rw [entry?_of_ne_nil nonroot] at present
  exact mem_of_lookup present

theorem WellFormed.entry?_of_mem (wellFormed : tree.WellFormed)
    (member : (location, entry) ∈ tree.entries) : tree.entry? location = some entry := by
  have nonroot : location ≠ [] := (wellFormed.2 _ member).1
  rw [entry?_of_ne_nil nonroot]
  exact lookup_of_mem wellFormed.1 member

section Reordered

variable {entries : List (Location Name × Entry)}

/-- It does not show in which order a tree holds its entries. -/
theorem WellFormed.entry?_of_perm (wellFormed : tree.WellFormed)
    (reordered : entries.Perm tree.entries) (location : Location Name) :
    entry? ⟨entries⟩ location = tree.entry? location := by
  by_cases root : location = []
  · rw [root, entry?_nil, entry?_nil]
  · rw [entry?_of_ne_nil root, entry?_of_ne_nil root]
    apply Option.ext
    intro entry
    have distinct : (entries.map Prod.fst).Nodup :=
      (reordered.map Prod.fst).nodup_iff.2 wellFormed.1
    constructor
    · intro found
      exact lookup_of_mem wellFormed.1 (reordered.mem_iff.1 (mem_of_lookup found))
    · intro found
      exact lookup_of_mem distinct (reordered.mem_iff.2 (mem_of_lookup found))

theorem WellFormed.of_perm (wellFormed : tree.WellFormed)
    (reordered : entries.Perm tree.entries) : (FileTree.mk entries).WellFormed := by
  refine ⟨(reordered.map Prod.fst).nodup_iff.2 wellFormed.1, ?_⟩
  intro found member
  rw [wellFormed.entry?_of_perm reordered]
  exact wellFormed.2 found (reordered.mem_iff.1 member)

end Reordered

/-- Whatever lies in a well-formed tree lies in a directory. -/
theorem WellFormed.entry?_dropLast (wellFormed : tree.WellFormed)
    (present : tree.entry? location = some entry) :
    tree.entry? location.dropLast = some .directory := by
  by_cases root : location = []
  · simp [root]
  · exact (wellFormed.2 _ (mem_entries_of_present root present)).2

/-- What stands between the root and something in a well-formed tree is a directory. -/
theorem WellFormed.entry?_of_append (wellFormed : tree.WellFormed) {rest : Location Name}
    (nonempty : rest ≠ []) (present : tree.entry? (location ++ rest) = some entry) :
    tree.entry? location = some .directory := by
  induction rest using List.reverseRecOn generalizing entry with
  | nil => exact absurd rfl nonempty
  | append_singleton before last ih =>
      have parent := wellFormed.entry?_dropLast present
      rw [← List.append_assoc, List.dropLast_concat] at parent
      by_cases first : before = []
      · simpa [first] using parent
      · exact ih first parent

/-- Nothing lies below a location at which nothing lies. -/
theorem WellFormed.entry?_append_eq_none (wellFormed : tree.WellFormed)
    (absent : tree.entry? location = none) (rest : Location Name) :
    tree.entry? (location ++ rest) = none := by
  rcases present : tree.entry? (location ++ rest) with _ | found
  · rfl
  · by_cases here : rest = []
    · simp [here, absent] at present
    · simp [wellFormed.entry?_of_append here present] at absent

theorem wellFormed_remove (wellFormed : tree.WellFormed) (nonroot : location ≠ [])
    (notDirectory : tree.entry? location ≠ some .directory) :
    (tree.remove location).WellFormed := by
  constructor
  · exact wellFormed.1.sublist (List.filter_sublist.map _)
  · intro found member
    rcases List.mem_filter.1 member with ⟨kept, differs⟩
    have ⟨foundNonroot, parent⟩ := wellFormed.2 found kept
    refine ⟨foundNonroot, ?_⟩
    have parentDiffers : found.1.dropLast ≠ location := by
      intro equal
      exact notDirectory (equal ▸ parent)
    rw [entry?_remove nonroot, if_neg parentDiffers, parent]

theorem wellFormed_put (wellFormed : tree.WellFormed) (nonroot : location ≠ [])
    (parent : tree.entry? location.dropLast = some .directory)
    (notDirectory : tree.entry? location ≠ some .directory) :
    (tree.put location entry).WellFormed := by
  have removed := wellFormed_remove wellFormed nonroot notDirectory
  constructor
  · rw [put, List.map_append, List.nodup_append]
    refine ⟨removed.1, by simp, ?_⟩
    intro left leftMember right rightMember equal
    simp only [List.map_cons, List.map_nil, List.mem_singleton] at rightMember
    rcases List.mem_map.1 leftMember with ⟨found, member, rfl⟩
    have differs := (List.mem_filter.1 member).2
    simp [equal, rightMember] at differs
  · intro found member
    rcases List.mem_append.1 member with kept | new
    · have ⟨foundNonroot, foundParent⟩ := removed.2 found kept
      refine ⟨foundNonroot, ?_⟩
      have differs : found.1.dropLast ≠ location := by
        intro equal
        simp [equal, entry?_remove_self nonroot] at foundParent
      rw [entry?_put nonroot, if_neg differs, ← foundParent, entry?_remove nonroot, if_neg differs]
    · simp only [List.mem_singleton] at new
      subst new
      refine ⟨nonroot, ?_⟩
      have differs : location.dropLast ≠ location := by
        intro equal
        have := congrArg List.length equal
        have := List.length_pos_iff.2 nonroot
        simp only [List.length_dropLast] at *
        omega
      rw [entry?_put nonroot, if_neg differs, parent]

theorem entry?_move {source target : Location Name} (sourceNonroot : source ≠ [])
    (targetNonroot : target ≠ []) (present : tree.entry? source = some entry) :
    entry? (tree.move source target) other =
      if other = target then some entry
      else if other = source then none else tree.entry? other := by
  rw [move, present]
  simp only [entry?_put targetNonroot, entry?_remove sourceNonroot]

theorem wellFormed_move {source target : Location Name} (wellFormed : tree.WellFormed)
    (sourceNonroot : source ≠ []) (targetNonroot : target ≠ [])
    (present : tree.entry? source = some entry) (notDirectory : entry ≠ .directory)
    (parent : tree.entry? target.dropLast = some .directory)
    (targetNotDirectory : tree.entry? target ≠ some .directory) :
    (tree.move source target).WellFormed := by
  have removed := wellFormed_remove wellFormed sourceNonroot (by simpa [present] using notDirectory)
  rw [move, present]
  apply wellFormed_put removed targetNonroot
  · have differs : target.dropLast ≠ source := by
      intro equal
      rw [equal, present, Option.some.injEq] at parent
      exact notDirectory parent
    rw [entry?_remove sourceNonroot, if_neg differs, parent]
  · rw [entry?_remove sourceNonroot]
    split
    · exact nofun
    · exact targetNotDirectory

theorem isDirectory_iff : tree.isDirectory location = true ↔
    tree.entry? location = some .directory := by
  simp [isDirectory]

end Names

variable {tree : FileTree} {location : Location} {entry : Entry}

/-- Whether everything in a tree has a name that files may have. -/
def IsNamed (tree : FileTree) : Prop :=
  ∀ location entry, tree.entry? location = some entry → ∀ name ∈ location, IsFileName name

theorem IsNamed.isFileName_of_mem {directory names : Location} (named : tree.IsNamed)
    (present : tree.entry? (directory ++ names) = some entry) : ∀ name ∈ names, IsFileName name :=
  fun name member => named _ _ present name (List.mem_append_right _ member)

/-- What a file system without links can hold: everything has a name and lies in a directory. -/
structure IsPlain (tree : FileTree) : Prop where
  wellFormed : tree.WellFormed
  named : ∀ location entry, tree.entry? location = some entry →
    ∀ name ∈ location, IsFileName name
  noLinks : ∀ location target, tree.entry? location ≠ some (.link target)

theorem isNamed_of_entries (named : ∀ entry ∈ tree.entries, ∀ name ∈ entry.1, IsFileName name) :
    tree.IsNamed := by
  intro location entry present name member
  have nonroot : location ≠ [] := List.ne_nil_of_mem member
  exact named _ (mem_entries_of_present nonroot present) name member

/-- A tree is plain if its entries are. -/
theorem isPlain_of_entries (wellFormed : tree.WellFormed)
    (named : ∀ entry ∈ tree.entries, ∀ name ∈ entry.1, IsFileName name)
    (noLinks : ∀ entry ∈ tree.entries, ∀ target, entry.2 ≠ .link target) : tree.IsPlain := by
  refine ⟨wellFormed, isNamed_of_entries named, ?_⟩
  intro location target present
  have nonroot : location ≠ [] := by
    rintro rfl
    cases present
  exact noLinks _ (mem_entries_of_present nonroot present) target rfl

theorem le_foldl_max {numbers : List Nat} {start number : Nat}
    (occurs : number ∈ numbers ∨ number ≤ start) : number ≤ numbers.foldl max start := by
  induction numbers generalizing start with
  | nil => simpa using occurs
  | cons first rest ih =>
      rw [List.foldl_cons]
      apply ih
      rcases occurs with member | le
      · rcases List.mem_cons.1 member with rfl | later
        · exact Or.inr (Nat.le_max_right _ _)
        · exact Or.inl later
      · exact Or.inr (Nat.le_trans le (Nat.le_max_left _ _))

theorem length_unusedName (tree : FileTree) :
    tree.unusedName.length =
      4 + (tree.entries.flatMap fun entry => entry.1.map String.length).foldl max 0 := by
  have start : ".tmp".toList.length = 4 := by decide
  unfold unusedName
  rw [String.length_ofList, List.length_append, List.length_replicate, start]

/-- A name that is not used occurs in no location of the tree. -/
theorem unusedName_not_mem (present : tree.entry? location = some entry) :
    tree.unusedName ∉ location := by
  by_cases root : location = []
  · simp [root]
  · intro used
    have length := tree.length_unusedName
    have occurs : tree.unusedName.length ∈
        tree.entries.flatMap fun entry => entry.1.map String.length := by
      rw [List.mem_flatMap]
      exact ⟨_, mem_entries_of_present root present, List.mem_map_of_mem used⟩
    have bound := @le_foldl_max _ 0 _ (Or.inl occurs)
    omega

theorem entry?_unusedName (tree : FileTree) (directory : Location) :
    tree.entry? (directory ++ [tree.unusedName]) = none := by
  rcases present : tree.entry? (directory ++ [tree.unusedName]) with _ | found
  · rfl
  · exact absurd (by simp) (unusedName_not_mem present)

end Registrar.FileTree
