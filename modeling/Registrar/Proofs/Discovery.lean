import Mathlib.Data.List.Sort
import Mathlib.Data.String.Basic
import Registrar.Proofs.Workspace.Below
import Registrar.Survey

/-!
# What is found below a directory

The walk below a directory yields each file that lies there and is not left out, unless it lies in a
directory that cannot be opened, and it yields the files in the order of the bytes of their names.
So it does not show in which order a tree holds its entries, and a tree in which other files lie
yields the same selected files, as long as the same files are selected.
-/

namespace Registrar

/-- The names that lead to what a walk comes upon. -/
def Visit.names {Name : Type} : Visit Name → Location Name
  | file names => names
  | unreadable names _ => names

theorem Visit.names_below {Name : Type} (name : Name) (visit : Visit Name) :
    (visit.below name).names = name :: visit.names := by
  cases visit <;> rfl

namespace Location

variable {Name : Type} [FileName Name]

/-- Whether names come before other ones by their bytes. -/
def Precedes (earlier later : Location Name) : Prop :=
  earlier.map FileName.bytes < later.map FileName.bytes

theorem Precedes.irrefl (names : Location Name) : ¬names.Precedes names :=
  List.lt_irrefl _

theorem Precedes.asymm {earlier later : Location Name} (before : earlier.Precedes later) :
    ¬later.Precedes earlier :=
  List.lt_asymm before

theorem precedes_cons {name : Name} {earlier later : Location Name}
    (before : earlier.Precedes later) : Precedes (name :: earlier) (name :: later) :=
  List.cons_lt_cons_iff.2 (Or.inr ⟨rfl, before⟩)

theorem precedes_of_lt {first second : Name} (before : FileName.bytes first < FileName.bytes second)
    (earlier later : Location Name) : Precedes (first :: earlier) (second :: later) :=
  List.cons_lt_cons_iff.2 (Or.inl before)

end Location

namespace FileTree

variable {Name : Type} {path : List UInt8} {directory names : Location Name} {name : Name}

section Entries

variable [DecidableEq Name] {tree : FileTree Name}

theorem child?_eq_some {found : Location Name × Entry} {child : Name × Entry} :
    child? directory found = some child ↔ found = (directory ++ [child.1], child.2) := by
  rcases found with ⟨location, entry⟩
  rcases child with ⟨name, kind⟩
  rw [child?]
  constructor
  · intro isChild
    split at isChild
    · rename_i parent
      rcases Option.map_eq_some_iff.1 isChild with ⟨last, isLast, same⟩
      rcases same with ⟨⟩
      rcases List.getLast?_eq_some_iff.1 isLast with ⟨before, rfl⟩
      rw [List.dropLast_concat] at parent
      rw [parent]
    · cases isChild
  · intro whole
    rcases whole with ⟨⟩
    simp

/-- Nothing lies deeper than a tree is high. -/
theorem length_le_height {location : Location Name} {entry : Entry}
    (present : tree.entry? location = some entry) : location.length ≤ tree.height := by
  by_cases root : location = []
  · simp [root]
  · apply le_foldl_max
    exact Or.inl (List.mem_map_of_mem (mem_entries_of_present root present))

end Entries

section Children

variable [FileName Name]

theorem insertByName_eq_orderedInsert (child : Name × Entry) (others : List (Name × Entry)) :
    insertByName child others =
      others.orderedInsert (fun left right => FileName.bytes left.1 ≤ FileName.bytes right.1)
        child := by
  induction others with
  | nil => rfl
  | cons first rest ih => rw [insertByName, List.orderedInsert, ih]

theorem mem_visitsAt {below : List (Visit Name)} {child : Name × Entry} :
    .file names ∈ visitsAt below child ↔ ∃ rest, names = child.1 :: rest ∧
      (rest = [] ∧ child.2.isFile = true ∨
        child.2 = .directory ∧ isSkippedDirectory child.1 = false ∧ .file rest ∈ below) := by
  rcases child with ⟨name, content | _ | target⟩
  · simp [visitsAt, Entry.isFile]
  · cases skipped : isSkippedDirectory name with
    | true => simp [visitsAt, Entry.isFile, skipped]
    | false =>
        simp only [visitsAt, Entry.isFile, skipped, Bool.false_eq_true, if_false, List.mem_map]
        constructor
        · rintro ⟨rest | _, member, same⟩
          · rcases same with ⟨⟩
            exact ⟨rest, rfl, Or.inr ⟨trivial, trivial, member⟩⟩
          · cases same
        · rintro ⟨rest, rfl, ⟨_, isFile⟩ | ⟨_, _, member⟩⟩
          · cases isFile
          · exact ⟨.file rest, member, rfl⟩
  · simp [visitsAt, Entry.isFile]

/-- Whatever a walk comes upon at something in a directory has its name in front. -/
theorem exists_names_of_mem_visitsAt {below : List (Visit Name)} {child : Name × Entry}
    {visit : Visit Name} (member : visit ∈ visitsAt below child) :
    ∃ rest, visit.names = child.1 :: rest := by
  rcases child with ⟨name, content | _ | target⟩
  · rcases List.mem_singleton.1 member with rfl
    exact ⟨[], rfl⟩
  · simp only [visitsAt] at member
    split at member
    · cases member
    · rcases List.mem_map.1 member with ⟨inside, _, rfl⟩
      exact ⟨inside.names, Visit.names_below name inside⟩
  · cases member

end Children

variable [DecidableEq Name] [FileName Name] {tree other : FileTree Name}

/-- Whether names lead from a directory to a file without passing one that is left out. -/
structure HoldsSource (tree : FileTree Name) (directory names : Location Name) : Prop where
  nonempty : names ≠ []
  visited : ∀ name ∈ names.dropLast, isSkippedDirectory name = false
  isFile : ∃ content, tree.entry? (directory ++ names) = some (.file content)

theorem HoldsSource.mem_entries (held : tree.HoldsSource [] names) :
    ∃ content, (names, .file content) ∈ tree.entries := by
  rcases held.isFile with ⟨content, present⟩
  exact ⟨content, mem_entries_of_present held.nonempty present⟩

/-- A listing is sorted by insertion. -/
theorem listing_eq_insertionSort (tree : FileTree Name) (directory : Location Name) :
    tree.listing directory = (tree.entries.filterMap (child? directory)).insertionSort
      fun left right => FileName.bytes left.1 ≤ FileName.bytes right.1 := by
  have inserts : insertByName = List.orderedInsert
      fun left right : Name × Entry => FileName.bytes left.1 ≤ FileName.bytes right.1 := by
    funext child others
    exact insertByName_eq_orderedInsert child others
  rw [listing, inserts, List.insertionSort]

/-- A directory lists what lies in it. -/
theorem mem_listing (wellFormed : tree.WellFormed) {child : Name × Entry} :
    child ∈ tree.listing directory ↔ tree.entry? (directory ++ [child.1]) = some child.2 := by
  rw [listing_eq_insertionSort, (List.perm_insertionSort _ _).mem_iff, List.mem_filterMap]
  constructor
  · rintro ⟨found, member, isChild⟩
    rw [child?_eq_some.1 isChild] at member
    exact wellFormed.entry?_of_mem member
  · intro present
    have nonroot : directory ++ [child.1] ≠ [] := by simp
    exact ⟨_, mem_entries_of_present nonroot present, child?_eq_some.2 rfl⟩

/-- A directory lists each name once, in the order of the bytes of the names. -/
theorem pairwise_listing (wellFormed : tree.WellFormed) (directory : Location Name) :
    (tree.listing directory).Pairwise fun left right =>
      FileName.bytes left.1 < FileName.bytes right.1 := by
  have distinct : (tree.listing directory).Pairwise fun left right => left.1 ≠ right.1 := by
    have locations := wellFormed.1
    rw [List.Nodup, List.pairwise_map] at locations
    rw [listing_eq_insertionSort,
      (List.perm_insertionSort _ _).pairwise_iff fun differs => Ne.symm differs,
      List.pairwise_filterMap]
    refine locations.imp ?_
    intro left right differs leftChild leftFound rightChild rightFound same
    rw [child?_eq_some] at leftFound rightFound
    exact differs (by rw [leftFound, rightFound, same])
  have sorted : (tree.listing directory).Pairwise fun left right =>
      FileName.bytes left.1 ≤ FileName.bytes right.1 := by
    have total : Std.Total fun left right : Name × Entry =>
        FileName.bytes left.1 ≤ FileName.bytes right.1 :=
      ⟨fun left right => List.le_total _ _⟩
    have transitive : IsTrans (Name × Entry) fun left right =>
        FileName.bytes left.1 ≤ FileName.bytes right.1 :=
      ⟨fun _ _ _ first second => List.le_trans first second⟩
    rw [listing_eq_insertionSort]
    exact List.pairwise_insertionSort _ _
  refine (sorted.and distinct).imp ?_
  rintro left right ⟨before, differs⟩
  rw [← List.not_le]
  intro after
  exact differs (FileName.bytes_inj.1 (List.le_antisymm before after))

/-- A file is held below a directory if it lies in it, or is held below a directory in it that is
not left out. -/
theorem holdsSource_cons (wellFormed : tree.WellFormed) {rest : Location Name} :
    tree.HoldsSource directory (name :: rest) ↔
      ∃ entry, tree.entry? (directory ++ [name]) = some entry ∧
        (rest = [] ∧ entry.isFile = true ∨
          entry = .directory ∧ isSkippedDirectory name = false ∧
            tree.HoldsSource (directory ++ [name]) rest) := by
  constructor
  · rintro ⟨_, visited, content, present⟩
    rcases rest with _ | ⟨next, others⟩
    · exact ⟨_, present, Or.inl ⟨rfl, rfl⟩⟩
    · rw [List.append_cons] at present
      have nonempty := List.cons_ne_nil next others
      rw [List.dropLast_cons_of_ne_nil nonempty] at visited
      refine ⟨.directory, wellFormed.entry?_of_append nonempty present, Or.inr ⟨rfl, ?_, ?_⟩⟩
      · exact visited name List.mem_cons_self
      · exact ⟨nonempty, fun other member => visited other (List.mem_cons_of_mem _ member),
          content, present⟩
  · rintro ⟨entry, present, ⟨rfl, isFile⟩ | ⟨rfl, notSkipped, held⟩⟩
    · refine ⟨List.cons_ne_nil _ _, by simp, ?_⟩
      cases entry with
      | file content => exact ⟨content, present⟩
      | directory => cases isFile
      | link => cases isFile
    · rcases held with ⟨nonempty, visited, content, isFile⟩
      rw [← List.append_cons] at isFile
      refine ⟨List.cons_ne_nil _ _, ?_, content, isFile⟩
      rw [List.dropLast_cons_of_ne_nil nonempty]
      intro other member
      rcases List.mem_cons.1 member with rfl | later
      · exact notSkipped
      · exact visited other later

/-- A walk through directories up to a depth yields the files that are held there in directories
that can be opened. -/
theorem mem_visitsWithin (wellFormed : tree.WellFormed) {depth : Nat} :
    .file names ∈ tree.visitsWithin depth path directory ↔
      tree.HoldsSource directory names ∧ names.length ≤ depth ∧
        (Location.joinTo path names.dropLast).length < Workspace.pathLimit := by
  induction depth generalizing path directory names with
  | zero =>
      simp only [visitsWithin, List.not_mem_nil, false_iff, Nat.le_zero, List.length_eq_zero_iff]
      rintro ⟨held, empty, _⟩
      exact held.nonempty empty
  | succ depth ih =>
      have onto := Location.length_le_length_joinTo path names.dropLast
      rw [visitsWithin]
      split
      · rw [List.mem_singleton]
        constructor
        · exact nofun
        · rintro ⟨_, _, opened⟩
          omega
      · rename_i opens
        rw [List.mem_flatMap]
        constructor
        · rintro ⟨child, inListing, found⟩
          rw [mem_listing wellFormed] at inListing
          rcases mem_visitsAt.1 found with
            ⟨rest, rfl, ⟨rfl, isFile⟩ | ⟨isDirectory, visited, inside⟩⟩
          · refine ⟨(holdsSource_cons wellFormed).2 ⟨_, inListing, Or.inl ⟨rfl, isFile⟩⟩, by simp,
              ?_⟩
            exact Nat.not_le.1 opens
          · rcases ih.1 inside with ⟨held, short, opened⟩
            refine ⟨(holdsSource_cons wellFormed).2
              ⟨_, inListing, Or.inr ⟨isDirectory, visited, held⟩⟩, by simpa using short, ?_⟩
            rwa [List.dropLast_cons_of_ne_nil held.nonempty]
        · rintro ⟨held, short, opened⟩
          rcases names with _ | ⟨name, rest⟩
          · exact absurd rfl held.nonempty
          · rcases (holdsSource_cons wellFormed).1 held with ⟨entry, present, kind⟩
            refine ⟨(name, entry), (mem_listing wellFormed).2 present,
              mem_visitsAt.2 ⟨rest, rfl, ?_⟩⟩
            rcases kind with isFile | ⟨isDirectory, visited, inside⟩
            · exact Or.inl isFile
            · rw [List.dropLast_cons_of_ne_nil inside.nonempty] at opened
              exact Or.inr ⟨isDirectory, visited, ih.2 ⟨inside, by simpa using short, opened⟩⟩

/-- A walk through directories yields what it comes upon in the order of the names. -/
theorem pairwise_visitsWithin (wellFormed : tree.WellFormed) (depth : Nat) (path : List UInt8)
    (directory : Location Name) :
    (tree.visitsWithin depth path directory).Pairwise fun earlier later =>
      earlier.names.Precedes later.names := by
  induction depth generalizing path directory with
  | zero => exact List.Pairwise.nil
  | succ depth ih =>
      rw [visitsWithin]
      split
      · exact List.pairwise_singleton _ _
      · rw [List.pairwise_flatMap]
        constructor
        · rintro ⟨name, content | _ | target⟩ _
          · exact List.pairwise_singleton _ _
          · simp only [visitsAt]
            split
            · exact List.Pairwise.nil
            · rw [List.pairwise_map]
              refine (ih _ _).imp ?_
              intro earlier later before
              rw [Visit.names_below, Visit.names_below]
              exact Location.precedes_cons before
          · exact List.Pairwise.nil
        · refine (pairwise_listing wellFormed directory).imp ?_
          intro left right before leftVisit leftFound rightVisit rightFound
          rcases exists_names_of_mem_visitsAt leftFound with ⟨leftRest, leftNames⟩
          rcases exists_names_of_mem_visitsAt rightFound with ⟨rightRest, rightNames⟩
          rw [leftNames, rightNames]
          exact Location.precedes_of_lt before _ _

/-- What is found below a directory is each file to which names lead from there, as far as
directories can be opened. -/
theorem mem_filesBelow (wellFormed : tree.WellFormed) :
    names ∈ tree.filesBelow path directory ↔ tree.HoldsSource directory names ∧
      (Location.joinTo path names.dropLast).length < Workspace.pathLimit := by
  have isFound : names ∈ tree.filesBelow path directory ↔
      .file names ∈ tree.visitsBelow path directory := by
    rw [filesBelow, List.mem_filterMap]
    constructor
    · rintro ⟨found | _, member, same⟩
      · rcases same with ⟨⟩
        exact member
      · cases same
    · intro member
      exact ⟨_, member, rfl⟩
  rw [isFound, visitsBelow, mem_visitsWithin wellFormed]
  apply and_congr_right
  rintro ⟨_, _, content, present⟩
  have short := length_le_height present
  rw [List.length_append] at short
  rw [and_iff_right_iff_imp]
  omega

theorem holdsSource_of_mem_filesBelow (wellFormed : tree.WellFormed)
    (found : names ∈ tree.filesBelow path directory) : tree.HoldsSource directory names :=
  ((mem_filesBelow wellFormed).1 found).1

/-- What is found below a directory comes in the order of the bytes of the names. -/
theorem pairwise_filesBelow (wellFormed : tree.WellFormed) (path : List UInt8)
    (directory : Location Name) :
    (tree.filesBelow path directory).Pairwise Location.Precedes := by
  rw [filesBelow, List.pairwise_filterMap]
  refine (pairwise_visitsWithin wellFormed _ path directory).imp ?_
  rintro (earlier | _) (later | _) before found same otherFound otherSame
  · rcases same with ⟨⟩
    rcases otherSame with ⟨⟩
    exact before
  · cases otherSame
  · cases same
  · cases same

theorem nodup_filesBelow (wellFormed : tree.WellFormed) (path : List UInt8)
    (directory : Location Name) : (tree.filesBelow path directory).Nodup := by
  refine (pairwise_filesBelow wellFormed path directory).imp ?_
  rintro left _ before rfl
  exact Location.Precedes.irrefl left before

/-- A single file below a directory is all that is found there, if the directory in which it lies
can be opened. -/
theorem filesBelow_eq_singleton (wellFormed : tree.WellFormed)
    (held : tree.HoldsSource directory names)
    (opened : (Location.joinTo path names.dropLast).length < Workspace.pathLimit)
    (only : ∀ others, tree.HoldsSource directory others → others = names) :
    tree.filesBelow path directory = [names] := by
  have member : ∀ others, others ∈ tree.filesBelow path directory ↔ others ∈ [names] := by
    intro others
    rw [mem_filesBelow wellFormed, List.mem_singleton]
    constructor
    · rintro ⟨otherHeld, _⟩
      exact only others otherHeld
    · rintro rfl
      exact ⟨held, opened⟩
  exact List.perm_singleton.1 ((List.perm_ext_iff_of_nodup (nodup_filesBelow wellFormed path
    directory) (List.nodup_singleton names)).2 member)

theorem filesBelow_eq_nil (wellFormed : tree.WellFormed)
    (none : ∀ names, ¬tree.HoldsSource directory names) : tree.filesBelow path directory = [] := by
  rw [List.eq_nil_iff_forall_not_mem]
  intro names member
  exact none names (holdsSource_of_mem_filesBelow wellFormed member)

/-- Two trees that hold the same files of a kind below a directory yield the same ones. -/
theorem filter_filesBelow_congr (wellFormed : tree.WellFormed) (otherWellFormed : other.WellFormed)
    {keeps : Location Name → Bool}
    (same : ∀ names, keeps names = true →
      (tree.HoldsSource directory names ↔ other.HoldsSource directory names)) :
    (tree.filesBelow path directory).filter keeps =
      (other.filesBelow path directory).filter keeps := by
  apply List.Perm.eq_of_pairwise (fun left right _ _ before after =>
      absurd after (Location.Precedes.asymm before))
    ((pairwise_filesBelow wellFormed path directory).filter keeps)
    ((pairwise_filesBelow otherWellFormed path directory).filter keeps)
  rw [List.perm_ext_iff_of_nodup ((nodup_filesBelow wellFormed path directory).filter keeps)
    ((nodup_filesBelow otherWellFormed path directory).filter keeps)]
  intro names
  rw [List.mem_filter, List.mem_filter, mem_filesBelow wellFormed, mem_filesBelow otherWellFormed]
  constructor
  · rintro ⟨⟨holds, opened⟩, kept⟩
    exact ⟨⟨(same names kept).1 holds, opened⟩, kept⟩
  · rintro ⟨⟨holds, opened⟩, kept⟩
    exact ⟨⟨(same names kept).2 holds, opened⟩, kept⟩

/-- Two trees that hold the same files below a directory yield the same ones. -/
theorem filesBelow_congr (wellFormed : tree.WellFormed) (otherWellFormed : other.WellFormed)
    (same : ∀ names, tree.HoldsSource directory names ↔ other.HoldsSource directory names) :
    tree.filesBelow path directory = other.filesBelow path directory := by
  have all : ∀ found : List (Location Name), found.filter (fun _ => true) = found := fun found =>
    List.filter_eq_self.2 fun _ _ => rfl
  have filtered := @filter_filesBelow_congr _ path directory _ _ tree other wellFormed
    otherWellFormed (fun _ => true) fun names _ => same names
  rwa [all, all] at filtered

end FileTree

end Registrar
