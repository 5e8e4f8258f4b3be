import Mathlib.Data.Set.Card
import Registrar.Proofs.Run.Resurvey
import Registrar.Proofs.Workspace.Slashes

/-!
# Discovery is complete and in order

What is discovered below a directory depends on what lies there and not on the order in which it is
listed. The discovered files are those that are selected, each once, in the order of the bytes of
the names that lead to them; so what lies in a directory stands before a file whose name goes on
where that of the directory ends. The numbers are those of the files that are left out.

Names need not be texts for that. There are two things that a discovery misses. A directory whose
path is too long cannot be opened, so that no file in it is found. And it is the text of a name that
tells whether a directory is hidden: one whose name begins with a point, but is no text, is searched
like any other. So the names of hidden directories are asked to be texts.
-/

namespace Registrar

namespace FileName

variable {Name : Type} [FileName Name] {name : Name}

/-- Whether a name begins with a point. -/
def IsHidden (name : Name) : Prop :=
  (bytes name).head? = some (UInt8.ofNat '.'.val.toNat)

/-- Whether a directory of the given name is hidden or holds build results. -/
def IsLeftOut (name : Name) : Prop :=
  IsHidden name ∨ bytes name = Text.bytes "target"

instance (name : Name) : Decidable (IsHidden name) :=
  inferInstanceAs (Decidable ((bytes name).head? = _))

instance (name : Name) : Decidable (IsLeftOut name) :=
  inferInstanceAs (Decidable (IsHidden name ∨ _))

theorem isHidden_iff_of_text {text : String} (isText : text? name = some text) :
    IsHidden name ↔ text.toList.head? = some '.' := by
  rw [IsHidden, text?_eq_some_iff.1 isText]
  exact Text.head?_bytes (by decide)

/-- A directory is left out if its name says so, as far as the names of hidden ones are texts. -/
theorem isSkippedDirectory_eq_true_iff (asText : IsHidden name → (text? name).isSome = true) :
    isSkippedDirectory name = true ↔ IsLeftOut name := by
  rw [isSkippedDirectory, IsLeftOut]
  rcases isText : text? name with _ | text
  · rw [isText] at asText
    simp only [Bool.false_eq_true, false_iff, not_or]
    refine ⟨fun isHidden => Bool.false_ne_true (asText isHidden), ?_⟩
    intro isTarget
    rw [← text?_eq_some_iff, isText] at isTarget
    cases isTarget
  · rw [isHidden_iff_of_text isText, text?_eq_some_iff.1 isText, Text.bytes_inj]
    simp

end FileName

namespace FilePath

/-- The bytes of each component of a path that leads elsewhere. -/
def componentBytes (path : FilePath) : List (List UInt8) :=
  (path.components.filterMap Component.segment?).map Text.bytes

variable {names : Location}

/-- A path that is made of names is judged by these. -/
theorem view_intercalate (nonempty : names ≠ []) (named : ∀ name ∈ names, IsSegmentName name) :
    (FilePath.mk ("/".intercalate names)).view = names.view := by
  rw [view, components_intercalate nonempty named, List.map_map, bytes, Text.bytes_intercalate]
  rfl

theorem componentBytes_intercalate (nonempty : names ≠ [])
    (named : ∀ name ∈ names, IsSegmentName name) :
    (FilePath.mk ("/".intercalate names)).componentBytes = names.map FileName.bytes := by
  have segments : (names.map Component.name).filterMap Component.segment? = names := by
    rw [List.filterMap_map]
    exact List.filterMap_some
  rw [componentBytes, components_intercalate nonempty named, segments]
  rfl

end FilePath

namespace FileTree

variable {Name : Type} [DecidableEq Name] [FileName Name] {tree : FileTree Name}
  {entries : List (Location Name × Entry)} {path : List UInt8} {directory names : Location Name}

/-- Whether the names of the hidden directories below a directory are texts. -/
def HidesByText (tree : FileTree Name) (directory : Location Name) : Prop :=
  ∀ names name, tree.entry? (directory ++ names ++ [name]) = some .directory →
    FileName.IsHidden name → (FileName.text? name).isSome = true

/-- Names that are texts hide by these. -/
theorem hidesByText_of_texts (tree : FileTree) (directory : Location) :
    tree.HidesByText directory :=
  fun _ _ _ _ => rfl

theorem hidesByText_of_entries (hides : ∀ entry ∈ tree.entries, entry.2 = .directory →
    ∀ name ∈ entry.1.getLast?, FileName.IsHidden name → (FileName.text? name).isSome = true) :
    tree.HidesByText directory := by
  intro names name present
  have nonroot : directory ++ names ++ [name] ≠ [] := by simp
  exact hides _ (mem_entries_of_present nonroot present) rfl name (by simp)

/-- A file is held where no directory on the way to it is hidden or holds build results. -/
theorem holdsSource_iff_of_hidesByText (wellFormed : tree.WellFormed)
    (hides : tree.HidesByText directory) :
    tree.HoldsSource directory names ↔ names ≠ [] ∧
      (∀ name ∈ names.dropLast, ¬FileName.IsLeftOut name) ∧
        ∃ content, tree.entry? (directory ++ names) = some (.file content) := by
  have judged : (∃ content, tree.entry? (directory ++ names) = some (.file content)) →
      ∀ name ∈ names.dropLast, isSkippedDirectory name = true ↔ FileName.IsLeftOut name := by
    rintro ⟨content, present⟩ name member
    apply FileName.isSkippedDirectory_eq_true_iff
    rcases List.append_of_mem member with ⟨front, rest, split⟩
    have nonempty : names ≠ [] := by
      rintro rfl
      cases member
    -- What stands before the last name on the way to a file is a directory.
    have whole : directory ++ names =
        directory ++ front ++ [name] ++ (rest ++ [names.getLast nonempty]) := by
      conv_lhs => rw [← List.dropLast_append_getLast nonempty, split]
      simp
    rw [whole] at present
    exact hides front name (wellFormed.entry?_of_append (by simp) present)
  constructor
  · rintro ⟨nonempty, visited, isFile⟩
    refine ⟨nonempty, fun name member leftOut => ?_, isFile⟩
    rw [← judged isFile name member, visited name member] at leftOut
    cases leftOut
  · rintro ⟨nonempty, visible, isFile⟩
    refine ⟨nonempty, fun name member => ?_, isFile⟩
    rw [← Bool.not_eq_true, judged isFile name member]
    exact visible name member

theorem filesBelow_of_perm (wellFormed : tree.WellFormed)
    (reordered : entries.Perm tree.entries) (path : List UInt8) (directory : Location Name) :
    (FileTree.mk entries).filesBelow path directory = tree.filesBelow path directory := by
  apply filesBelow_congr (wellFormed.of_perm reordered) wellFormed
  intro names
  constructor
  · rintro ⟨nonempty, visited, content, present⟩
    rw [wellFormed.entry?_of_perm reordered] at present
    exact ⟨nonempty, visited, content, present⟩
  · rintro ⟨nonempty, visited, content, present⟩
    rw [← wellFormed.entry?_of_perm reordered] at present
    exact ⟨nonempty, visited, content, present⟩

end FileTree

/-- What lies in a directory comes before what is called like it with something added. -/
theorem Location.inside_precedes_beside {Name : Type} [FileName Name] {name beside : Name}
    (begins : FileName.bytes name <+: FileName.bytes beside) (differs : name ≠ beside)
    (front rest : Location Name) : Precedes (front ++ name :: rest) (front ++ [beside]) := by
  rcases begins with ⟨added, whole⟩
  have shorter : FileName.bytes name ++ [] < FileName.bytes beside := by
    rw [← whole]
    cases added with
    | nil => exact absurd (FileName.bytes_inj.1 (by simpa using whole)) differs
    | cons first others => exact List.append_left_lt (List.nil_lt_cons _ _)
  rw [List.append_nil] at shorter
  rw [Precedes, List.map_append, List.map_append]
  exact List.append_left_lt (List.cons_lt_cons_iff.2 (Or.inl shorter))

/-- In a list that an order relates from left to right, what comes before stands before. -/
theorem pair_sublist_of_pairwise {α : Type} {precedes : α → α → Prop} {list : List α}
    {earlier later : α} (ordered : list.Pairwise precedes)
    (asymmetric : ∀ left right, precedes left right → ¬precedes right left)
    (earlierMember : earlier ∈ list) (laterMember : later ∈ list)
    (before : precedes earlier later) : [earlier, later].Sublist list := by
  induction ordered with
  | nil => cases earlierMember
  | @cons first rest fromFirst _ ih =>
      rcases List.mem_cons.1 earlierMember with rfl | earlierLater
      · rcases List.mem_cons.1 laterMember with rfl | laterLater
        · exact absurd before (asymmetric _ _ before)
        · exact (List.singleton_sublist.2 laterLater).cons_cons _
      · rcases List.mem_cons.1 laterMember with rfl | laterLater
        · exact absurd before (asymmetric _ _ (fromFirst _ earlierLater))
        · exact (ih earlierLater laterLater).cons _

/-- Whether names lead from a directory, to which a path with the given bytes leads, to a file that
a selector judges in the given way. No directory on the way may be hidden or hold build results,
and the one in which the file lies has a path that is short enough to be opened. -/
structure Selector.Judges {Name : Type} [DecidableEq Name] [FileName Name] (selector : Selector)
    (tree : FileTree Name) (path : List UInt8) (directory : Location Name) (selection : Selection)
    (names : Location Name) : Prop where
  nonempty : names ≠ []
  isFile : ∃ content, tree.entry? (directory ++ names) = some (.file content)
  visible : ∀ name ∈ names.dropLast, ¬FileName.IsLeftOut name
  opened : (Location.joinTo path names.dropLast).length < Workspace.pathLimit
  judged : selector.judge names.view = selection

namespace Discovery

/-- Whether a discovery below a directory yields the files that are selected there, each once and
in order, and counts those that are left out. -/
structure IsComplete {Name : Type} [DecidableEq Name] [FileName Name]
    (discovery : Discovery (Location Name)) (selector : Selector) (tree : FileTree Name)
    (path : List UInt8) (directory : Location Name) : Prop where
  ordered : discovery.files.Pairwise Location.Precedes
  nodup : discovery.files.Nodup
  insideFirst : ∀ front name rest beside, FileName.bytes name <+: FileName.bytes beside →
    name ≠ beside → front ++ name :: rest ∈ discovery.files → front ++ [beside] ∈ discovery.files →
      [front ++ name :: rest, front ++ [beside]].Sublist discovery.files
  mem_files : ∀ names, names ∈ discovery.files ↔
    selector.Judges tree path directory .selected names
  excluded : (discovery.excluded : ℕ∞) =
    {names | selector.Judges tree path directory .excluded names}.encard
  priorOutputs : (discovery.priorOutputs : ℕ∞) =
    {names | selector.Judges tree path directory .priorOutput names}.encard

/-- A discovery whose files are told in another way. -/
def map {File Other : Type} (tell : File → Other) (discovery : Discovery File) :
    Discovery Other where
  files := discovery.files.map tell
  excluded := discovery.excluded
  priorOutputs := discovery.priorOutputs

end Discovery

namespace Selector

section Names

variable {Name : Type} [DecidableEq Name] [FileName Name] {selector : Selector}
  {tree : FileTree Name} {path : List UInt8} {directory : Location Name}

/-- The names that lead to the files below a directory that are judged in the given way. -/
def namesJudged (selector : Selector) (tree : FileTree Name) (path : List UInt8)
    (directory : Location Name) (selection : Selection) : List (Location Name) :=
  (tree.filesBelow path directory).filter fun names => selector.judge names.view == selection

theorem mem_namesJudged (wellFormed : tree.WellFormed) (hides : tree.HidesByText directory)
    {selection : Selection} {names : Location Name} :
    names ∈ selector.namesJudged tree path directory selection ↔
      selector.Judges tree path directory selection names := by
  rw [namesJudged, List.mem_filter, FileTree.mem_filesBelow wellFormed,
    FileTree.holdsSource_iff_of_hidesByText wellFormed hides, beq_iff_eq]
  constructor
  · rintro ⟨⟨⟨nonempty, visible, isFile⟩, opened⟩, judged⟩
    exact ⟨nonempty, isFile, visible, opened, judged⟩
  · rintro ⟨nonempty, isFile, visible, opened, judged⟩
    exact ⟨⟨⟨nonempty, visible, isFile⟩, opened⟩, judged⟩

theorem length_namesJudged (wellFormed : tree.WellFormed) (hides : tree.HidesByText directory)
    (selection : Selection) :
    ((selector.namesJudged tree path directory selection).length : ℕ∞) =
      {names | selector.Judges tree path directory selection names}.encard := by
  have distinct : (selector.namesJudged tree path directory selection).Nodup :=
    (FileTree.nodup_filesBelow wellFormed path directory).filter _
  have same : {names | selector.Judges tree path directory selection names} =
      ((selector.namesJudged tree path directory selection).toFinset : Set (Location Name)) := by
    ext names
    rw [Set.mem_ofPred_eq, List.coe_toFinset, Set.mem_ofPred_eq, mem_namesJudged wellFormed hides]
  rw [same, Set.encard_coe_eq_coe_finsetCard, List.toFinset_card_of_nodup distinct]

theorem isComplete_discoverBelow (wellFormed : tree.WellFormed)
    (hides : tree.HidesByText directory) :
    (selector.discoverBelow tree path directory).IsComplete selector tree path directory := by
  have ordered : (selector.namesJudged tree path directory .selected).Pairwise
      Location.Precedes := (FileTree.pairwise_filesBelow wellFormed path directory).filter _
  refine ⟨ordered, (FileTree.nodup_filesBelow wellFormed path directory).filter _, ?_,
    fun names => mem_namesJudged wellFormed hides, length_namesJudged wellFormed hides .excluded,
    length_namesJudged wellFormed hides .priorOutput⟩
  intro front name rest beside begins differs inside outside
  exact pair_sublist_of_pairwise ordered (fun _ _ before => before.asymm) inside outside
    (Location.inside_precedes_beside begins differs front rest)

theorem discoverBelow_of_perm {entries : List (Location Name × Entry)}
    (wellFormed : tree.WellFormed) (reordered : entries.Perm tree.entries) :
    selector.discoverBelow ⟨entries⟩ path directory =
      selector.discoverBelow tree path directory := by
  rw [discoverBelow, FileTree.filesBelow_of_perm wellFormed reordered, discoverBelow]

end Names

section Texts

variable {selector : Selector} {workspace : Workspace} {base : FilePath} {directory : Location}
  {entries : List (Location × Entry)}

theorem locate_of_perm (wellFormed : workspace.tree.WellFormed)
    (reordered : entries.Perm workspace.tree.entries)
    (located : workspace.locate base true = .ok directory) :
    (Workspace.mk ⟨entries⟩ workspace.directory).locate base true = .ok directory := by
  rw [Workspace.locate_eq_ok_iff] at located ⊢
  rcases located with ⟨openable, used, bound, leads⟩
  refine ⟨openable, used, bound, leads.mono ?_⟩
  intro location entry present
  rw [wellFormed.entry?_of_perm reordered, present]

/-- Where a base directory is a directory, a discovery is what is discovered below it. -/
theorem discover_eq_ok (wellFormed : workspace.tree.WellFormed)
    (named : workspace.tree.IsNamed) (located : workspace.locate base true = .ok directory)
    (isDirectory : workspace.tree.entry? directory = some .directory) :
    selector.discover workspace base = .ok
      ((selector.discoverBelow workspace.tree base.bytes directory).map
        (FoundFile.below base)) := by
  have judged : ∀ selection, selector.filesSelectedAs selection
      ((workspace.tree.filesBelow base.bytes directory).map (FoundFile.below base)) =
        (selector.namesJudged workspace.tree base.bytes directory selection).map
          (FoundFile.below base) := by
    intro selection
    rw [filesSelectedAs, List.filter_map, namesJudged]
    congr 1
    apply List.filter_congr
    intro names member
    have held := FileTree.holdsSource_of_mem_filesBelow wellFormed member
    rcases held.isFile with ⟨content, present⟩
    rw [Function.comp_apply, select, FoundFile.below, FilePath.view_intercalate held.nonempty
      fun name inNames => (named.isFileName_of_mem present name inNames).toIsSegmentName]
  have selected := judged .selected
  have excluded := congrArg List.length (judged .excluded)
  have priorOutput := congrArg List.length (judged .priorOutput)
  rw [List.length_map] at excluded priorOutput
  rw [discover, findFiles, Config.findFiles_eq_ok located isDirectory]
  exact congrArg Except.ok (Discovery.mk.injEq .. ▸ ⟨selected, excluded, priorOutput⟩)

theorem discover_of_perm (wellFormed : workspace.tree.WellFormed)
    (named : workspace.tree.IsNamed) (located : workspace.locate base true = .ok directory)
    (isDirectory : workspace.tree.entry? directory = some .directory)
    (reordered : entries.Perm workspace.tree.entries) :
    selector.discover ⟨⟨entries⟩, workspace.directory⟩ base = .ok
      ((selector.discoverBelow workspace.tree base.bytes directory).map
        (FoundFile.below base)) := by
  have reorderedNamed : (FileTree.mk entries).IsNamed := by
    intro location entry present
    rw [wellFormed.entry?_of_perm reordered] at present
    exact named location entry present
  have reorderedDirectory : FileTree.entry? ⟨entries⟩ directory = some .directory := by
    rw [wellFormed.entry?_of_perm reordered, isDirectory]
  rw [discover_eq_ok (wellFormed.of_perm reordered) reorderedNamed
    (locate_of_perm wellFormed reordered located) reorderedDirectory,
    discoverBelow_of_perm wellFormed reordered]

end Texts

/-- Discovery is complete, whatever the names in a tree are, as long as those of hidden directories
are texts. What is discovered below a directory does not show in which order anything is listed. It
yields each file that is selected, once, in the order of the bytes of the names that lead to it, and
counts the files that are excluded and those that are prior output. Files are passed by in
directories whose paths are too long to be opened. Where all names are texts, this is what a
discovery from a base directory comes to, and the paths of the files below it are in the order of
the bytes of their components. -/
theorem discover_is_complete (selector : Selector) :
    (∀ {Name : Type} [DecidableEq Name] [FileName Name] (tree : FileTree Name)
      (path : List UInt8) (directory : Location Name),
      tree.WellFormed → tree.HidesByText directory → ∃ discovery : Discovery (Location Name),
        (∀ entries : List (Location Name × Entry), entries.Perm tree.entries →
          selector.discoverBelow ⟨entries⟩ path directory = discovery) ∧
        discovery.IsComplete selector tree path directory) ∧
    ∀ (workspace : Workspace) (base : FilePath), workspace.tree.WellFormed →
      workspace.tree.IsNamed → workspace.isDirectory base = true →
      ∃ directory, ∃ discovery : Discovery Location,
        workspace.locate base true = .ok directory ∧
        (∀ entries : List (Location × Entry), entries.Perm workspace.tree.entries →
          selector.discover ⟨⟨entries⟩, workspace.directory⟩ base =
            .ok (discovery.map (FoundFile.below base))) ∧
        discovery.IsComplete selector workspace.tree base.bytes directory ∧
        (discovery.map (FoundFile.below base)).files.Pairwise fun earlier later =>
          earlier.relative.componentBytes < later.relative.componentBytes := by
  constructor
  · intro Name _ _ tree path directory wellFormed hides
    exact ⟨_, fun entries reordered => discoverBelow_of_perm wellFormed reordered,
      isComplete_discoverBelow wellFormed hides⟩
  · intro workspace base wellFormed named isDirectory
    rcases Workspace.exists_located_directory isDirectory with ⟨directory, located, present⟩
    have complete := @isComplete_discoverBelow _ _ _ selector _ base.bytes directory wellFormed
      (FileTree.hidesByText_of_texts workspace.tree directory)
    refine ⟨directory, _, located, fun entries reordered =>
      discover_of_perm wellFormed named located present reordered, complete, ?_⟩
    rw [Discovery.map, List.pairwise_map]
    refine complete.ordered.imp_of_mem ?_
    have bytes : ∀ names ∈ (selector.discoverBelow workspace.tree base.bytes directory).files,
        (FoundFile.below base names).relative.componentBytes = names.map FileName.bytes := by
      intro names member
      have judges := (complete.mem_files names).1 member
      rcases judges.isFile with ⟨content, isFile⟩
      exact FilePath.componentBytes_intercalate judges.nonempty fun name inNames =>
        (named.isFileName_of_mem isFile name inNames).toIsSegmentName
    intro earlier later earlierMember laterMember before
    rw [bytes _ earlierMember, bytes _ laterMember]
    exact before

end Selector

namespace Sample

/-- A tree that holds files in a directory and beside it, and below directories that are left
out. -/
def nestedWorkspace : Workspace where
  tree := ⟨[(["link.rs"], .link ⟨"a.rs"⟩), (["target"], .directory),
    (["target", "d.rs"], .file .empty), (["a.rs"], .file .empty), (["z.rs"], .file .empty),
    (["gen"], .directory), (["gen", "e.rs"], .file .empty), ([".git"], .directory),
    ([".git", "c.rs"], .file .empty), (["a"], .directory), (["a", "b.rs"], .file .empty)]⟩
  directory := []

/-- Takes the files with the extension `rs`, but for those that begin with `z`. -/
def rustSelector : Selector where
  sets := [([⟨[.leadingDirectories, .anyRun, .character '.', .character 'r', .character 's']⟩],
    [⟨[.character 'z', .anyRun]⟩])]
  outputDirectory := some [.name "gen"]
  outputFile := none

theorem wellFormed_nestedWorkspace : nestedWorkspace.tree.WellFormed := by
  refine ⟨by decide, ?_⟩
  intro entry member
  simp only [nestedWorkspace, List.mem_cons, List.not_mem_nil, or_false] at member
  rcases member with rfl | rfl | rfl | rfl | rfl | rfl | rfl | rfl | rfl | rfl | rfl <;>
    exact ⟨List.cons_ne_nil _ _, rfl⟩

theorem isNamed_nestedWorkspace : nestedWorkspace.tree.IsNamed :=
  FileTree.isNamed_of_entries (by decide)

/-- The name whose bytes encode a text. -/
def rawName (text : String) : RawName := ⟨Text.bytes text⟩

/-- A directory and a file whose names are no texts, beside directories whose names are. -/
def rawTree : FileTree RawName :=
  ⟨[([⟨[0xFF, 0x2E, 0x72, 0x73]⟩], .file .empty), ([rawName "gen"], .directory),
    ([rawName "gen", rawName "e.rs"], .file .empty), ([⟨[0x61, 0xFF]⟩], .directory),
    ([⟨[0x61, 0xFF]⟩, rawName "b.rs"], .file .empty), ([rawName ".git"], .directory),
    ([rawName ".git", rawName "c.rs"], .file .empty), ([rawName "z.rs"], .file .empty)]⟩

theorem wellFormed_rawTree : rawTree.WellFormed := by
  refine ⟨by decide, ?_⟩
  intro entry member
  simp only [rawTree, List.mem_cons, List.not_mem_nil, or_false] at member
  rcases member with rfl | rfl | rfl | rfl | rfl | rfl | rfl | rfl <;>
    exact ⟨List.cons_ne_nil _ _, rfl⟩

theorem hidesByText_rawTree : rawTree.HidesByText [] :=
  FileTree.hidesByText_of_entries (by decide)

/-- In the nested tree, the file in the directory stands before the one beside it, whatever the
order of the entries, and each of the other files is counted where it belongs. So it is where names
are no texts. -/
theorem discover_is_complete_nestedTrees :
    (∀ entries : List (Location × Entry), entries.Perm nestedWorkspace.tree.entries →
      rustSelector.discover ⟨⟨entries⟩, nestedWorkspace.directory⟩ ⟨"."⟩ =
        .ok ⟨[⟨⟨"./a/b.rs"⟩, ⟨"a/b.rs"⟩⟩, ⟨⟨"./a.rs"⟩, ⟨"a.rs"⟩⟩], 1, 1⟩) ∧
    ∀ entries : List (Location RawName × Entry), entries.Perm rawTree.entries →
      rustSelector.discoverBelow ⟨entries⟩ (Text.bytes ".") [] =
        ⟨[[⟨[0x61, 0xFF]⟩, rawName "b.rs"], [⟨[0xFF, 0x2E, 0x72, 0x73]⟩]], 1, 1⟩ := by
  constructor
  · rcases rustSelector.discover_is_complete.2 nestedWorkspace ⟨"."⟩ wellFormed_nestedWorkspace
      isNamed_nestedWorkspace (by decide) with ⟨_, discovery, _, same, _⟩
    have evaluated : rustSelector.discover nestedWorkspace ⟨"."⟩ =
        .ok ⟨[⟨⟨"./a/b.rs"⟩, ⟨"a/b.rs"⟩⟩, ⟨⟨"./a.rs"⟩, ⟨"a.rs"⟩⟩], 1, 1⟩ := by
      decide
    intro entries reordered
    rw [same entries reordered, ← same _ (List.Perm.refl _)]
    exact evaluated
  · rcases rustSelector.discover_is_complete.1 rawTree (Text.bytes ".") [] wellFormed_rawTree
      hidesByText_rawTree with ⟨discovery, same, _⟩
    intro entries reordered
    rw [same entries reordered, ← same _ (List.Perm.refl _)]
    decide

/-- A workspace with a single source file, in a directory within another one. -/
def deepWorkspace : Workspace :=
  ⟨⟨[(["src"], .directory), (["src", "sub"], .directory),
    (["src", "sub", "x.rs"], .file .empty)]⟩, []⟩

/-- A name that begins with a point and is no text. -/
def hiddenName : RawName := ⟨[0x2E, 0xFF]⟩

/-- A tree with a single source file, in a directory of that name. -/
def hiddenTree : FileTree RawName :=
  ⟨[([rawName "src"], .directory), ([rawName "src", hiddenName], .directory),
    ([rawName "src", hiddenName, rawName "a.rs"], .file .empty)]⟩

theorem wellFormed_deepWorkspace : deepWorkspace.tree.WellFormed := by
  refine ⟨by decide, ?_⟩
  intro entry member
  simp only [deepWorkspace, List.mem_cons, List.not_mem_nil, or_false] at member
  rcases member with rfl | rfl | rfl <;> exact ⟨List.cons_ne_nil _ _, rfl⟩

/-- Where the path of the inner directory is too long, nothing is found in it. -/
theorem filesBelow_deepWorkspace {slashes : Nat} (long : Workspace.pathLimit ≤ slashes + 7) :
    deepWorkspace.tree.filesBelow (slashedDirectory slashes).bytes [] = [] := by
  rw [List.eq_nil_iff_forall_not_mem]
  intro names member
  rcases (FileTree.mem_filesBelow wellFormed_deepWorkspace).1 member with ⟨held, opened⟩
  rcases held.mem_entries with ⟨content, inEntries⟩
  simp only [deepWorkspace, List.mem_cons, List.not_mem_nil, or_false, Prod.mk.injEq,
    reduceCtorEq, and_false, false_or] at inEntries
  rcases inEntries.1 with rfl
  have outer := FileName.le_length_joinTo (slashedDirectory slashes).bytes "src"
  have inner := FileName.le_length_joinTo
    (FileName.joinTo (slashedDirectory slashes).bytes "src") "sub"
  have outerSize : (FileName.bytes "src").length = 3 := by decide
  have innerSize : (FileName.bytes "sub").length = 3 := by decide
  simp only [Location.joinTo, List.dropLast_cons_cons, List.dropLast_singleton, List.foldl_cons,
    List.foldl_nil] at opened
  rw [length_bytes_slashedDirectory, outerSize] at outer
  rw [innerSize] at inner
  omega

/-- A file that is selected may not be found, because its directory cannot be opened; and one may be
found in a hidden directory whose name is no text. -/
theorem discovery_passes_by_and_enters :
    (∃ discovery, rustSelector.discover deepWorkspace (slashedDirectory 4089) = .ok discovery ∧
      deepWorkspace.tree.entry? ["src", "sub", "x.rs"] = some (.file .empty) ∧
      (∀ name ∈ ["src", "sub"], ¬FileName.IsLeftOut name) ∧
      rustSelector.select ⟨"src/sub/x.rs"⟩ = .selected ∧ discovery.files = []) ∧
    FileName.IsHidden hiddenName ∧
      [rawName "src", hiddenName, rawName "a.rs"] ∈
        (rustSelector.discoverBelow hiddenTree (Text.bytes ".") []).files := by
  refine ⟨⟨_, Selector.discover_eq_ok wellFormed_deepWorkspace
      (FileTree.isNamed_of_entries (by decide)) (locate_slashedDirectory (by decide) rfl) rfl,
      rfl, by decide, by decide, ?_⟩, by decide, by decide⟩
  rw [Selector.discoverBelow, filesBelow_deepWorkspace (by decide)]
  rfl

end Sample

end Registrar
