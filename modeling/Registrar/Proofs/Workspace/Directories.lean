import Registrar.Proofs.Workspace.Resolution

/-!
# Missing directories

Where directories are made, everything stays where it is and nothing but directories is added, also
where that fails halfway. The segments of the path lead to the directory that is found. As soon as a
directory is missing, nothing lies in any directory that follows.
-/

namespace Registrar

namespace FileTree

/-- Whether a tree holds what another one holds and, besides that, only directories. -/
structure AddsDirectories (tree larger : FileTree) : Prop where
  keeps : ∀ location entry, tree.entry? location = some entry →
    larger.entry? location = some entry
  fresh : ∀ location, tree.entry? location = none → larger.entry? location ≠ none →
    larger.entry? location = some .directory

/-- Whether nothing lies in a directory. -/
def IsBarren (tree : FileTree) (directory : Location) : Prop :=
  ∀ name, tree.entry? (directory ++ [name]) = none

/-- Whether segments lead, if they lead anywhere, to a directory in which nothing lies. -/
def LeadsToBarren (tree : FileTree) (start : Location) (segments : List String) : Prop :=
  ∀ used directory, tree.Leads used start segments directory → tree.IsBarren directory

variable {tree made larger : FileTree} {start directory : Location}

theorem AddsDirectories.refl (tree : FileTree) : tree.AddsDirectories tree where
  keeps := fun _ _ present => present
  fresh := fun _ absent present => absurd absent present

theorem AddsDirectories.trans (first : tree.AddsDirectories made)
    (second : made.AddsDirectories larger) : tree.AddsDirectories larger where
  keeps := fun location entry present => second.keeps _ _ (first.keeps _ _ present)
  fresh := by
    intro location absent present
    by_cases madeAbsent : made.entry? location = none
    · exact second.fresh location madeAbsent present
    · exact second.keeps _ _ (first.fresh location absent madeAbsent)

theorem addsDirectories_put {location : Location} (nonroot : location ≠ [])
    (absent : tree.entry? location = none) :
    tree.AddsDirectories (tree.put location .directory) where
  keeps := by
    intro other entry present
    have differs : other ≠ location := by
      rintro rfl
      simp [absent] at present
    rw [entry?_put_of_ne nonroot differs, present]
  fresh := by
    intro other otherAbsent present
    rw [entry?_put nonroot] at present ⊢
    split at present
    · rename_i same
      rw [if_pos same]
    · exact absurd otherAbsent present

/-- An entry that is no directory lay in the tree before directories were added. -/
theorem AddsDirectories.entry?_of_ne_directory {location : Location} {entry : Entry}
    (adds : tree.AddsDirectories larger) (present : larger.entry? location = some entry)
    (notDirectory : entry ≠ .directory) : tree.entry? location = some entry := by
  rcases before : tree.entry? location with _ | found
  · have isDirectory := adds.fresh location before (by simp [present])
    rw [present, Option.some.injEq] at isDirectory
    exact absurd isDirectory notDirectory
  · have kept := adds.keeps _ _ before
    rw [present, Option.some.injEq] at kept
    rw [kept]

section Missing

variable {name : String}

theorem wellFormed_put_directory (wellFormed : tree.WellFormed)
    (isDirectory : tree.entry? start = some .directory)
    (absent : tree.entry? (start ++ [name]) = none) :
    (tree.put (start ++ [name]) .directory).WellFormed := by
  apply wellFormed_put wellFormed (by simp)
  · rw [List.dropLast_concat, isDirectory]
  · simp [absent]

/-- Nothing lies in a directory that was just made. -/
theorem isBarren_put_directory (wellFormed : tree.WellFormed)
    (absent : tree.entry? (start ++ [name]) = none) :
    (tree.put (start ++ [name]) .directory).IsBarren (start ++ [name]) := by
  intro below
  rw [entry?_put_of_ne (by simp) (by simp)]
  exact wellFormed.entry?_append_eq_none absent [below]

end Missing

/-- No name leads on from a directory in which nothing lies. -/
theorem IsBarren.not_leads {used : Nat} {name : String} {rest : List String} {place : Location}
    (barren : tree.IsBarren start) (moves : FilePath.isIdle name.toList = false)
    (notParent : name ≠ "..") : ¬tree.Leads used start (name :: rest) place := by
  intro leads
  cases leads with
  | idle _ stays _ => simp [FilePath.isIdle_toList.2 stays] at moves
  | up _ _ => exact notParent rfl
  | enter _ _ present _ _ => simp [barren name] at present
  | link _ _ present _ => simp [barren name] at present

/-- Segments that do not lead upwards do not lead away from a directory in which nothing lies. -/
theorem IsBarren.leadsToBarren {segments : List String} (barren : tree.IsBarren start)
    (descends : ".." ∉ segments) : tree.LeadsToBarren start segments := by
  intro used directory leads
  induction segments generalizing used with
  | nil =>
      cases leads
      exact barren
  | cons segment segments ih =>
      rw [List.mem_cons, not_or] at descends
      cases moves : FilePath.isIdle segment.toList
      · exact absurd leads (barren.not_leads moves (Ne.symm descends.1))
      · cases leads with
        | idle _ _ leads => exact ih descends.2 _ leads
        | up _ _ => exact absurd rfl descends.1
        | enter _ step _ _ _ => simp [step.isIdle_eq_false] at moves
        | link _ step _ _ => simp [step.isIdle_eq_false] at moves

theorem LeadsToBarren.of_leads {used : Nat} {segment : String} {segments : List String}
    (barren : tree.LeadsToBarren directory segments)
    (leads : tree.Leads used start [segment] directory) :
    tree.LeadsToBarren start (segment :: segments) := by
  intro usedWhole place whole
  rw [← List.singleton_append] at whole
  rcases whole.split with ⟨_, usedRest, middle, _, here, onwards⟩
  rcases here.unique leads with rfl
  exact barren usedRest place onwards

/-- A missing name is one that a directory may take. -/
theorem isStep_of_follow_eq_notFound {links : Nat} {segment : String}
    (directory : tree.entry? start = some .directory)
    (missing : tree.follow true links start [segment] = .error .notFound) : IsStep segment := by
  rcases segment_cases segment with stays | rfl | step | ⟨moves, notParent, long⟩
  · rw [follow_idle directory stays, follow_nil] at missing
    cases missing
  · rw [follow_up directory, follow_nil] at missing
    cases missing
  · exact step
  · rw [follow_long directory moves notParent long] at missing
    cases missing

end FileTree

namespace Workspace

open FileTree

variable {tree made : FileTree} {start directory : Location} {components : List Component}
  {reason? : Location → Option FileError} {outcome : Except FileError Location}
  {segments : List String} {text : String}

/-- What the making of directories leaves behind, whether it comes about or fails. Unless a segment
leads upwards, nothing is made or nothing lies in the directory to which the segments lead. -/
structure Makes (tree : FileTree) (start : Location) (segments : List String) (made : FileTree)
    (outcome : Except FileError Location) : Prop where
  wellFormed : made.WellFormed
  adds : tree.AddsDirectories made
  reaches : ∀ directory, outcome = .ok directory →
    made.entry? directory = some .directory ∧ ∃ used, made.Leads used start segments directory
  sameOrBarren : ".." ∉ segments → made = tree ∨ made.LeadsToBarren start segments

namespace Makes

theorem fail (wellFormed : tree.WellFormed) (start : Location) (segments : List String)
    (cause : FileError) : Makes tree start segments tree (.error cause) :=
  ⟨wellFormed, .refl tree, nofun, fun _ => Or.inl rfl⟩

/-- Directories that are made further up. -/
theorem up (isDirectory : tree.entry? start = some .directory)
    (makes : Makes tree start.dropLast segments made outcome) :
    Makes tree start (".." :: segments) made outcome where
  wellFormed := makes.wellFormed
  adds := makes.adds
  reaches := by
    intro directory reached
    rcases makes.reaches directory reached with ⟨isLast, used, leads⟩
    exact ⟨isLast, used, .up (makes.adds.keeps _ _ isDirectory) leads⟩
  sameOrBarren := fun descends => absurd List.mem_cons_self descends

/-- Directories that are made in one to which a segment leads already. -/
theorem lead {used : Nat} {location : Location} (leads : tree.Leads used start [text] location)
    (makes : Makes tree location segments made outcome) :
    Makes tree start (text :: segments) made outcome where
  wellFormed := makes.wellFormed
  adds := makes.adds
  reaches := by
    intro directory reached
    rcases makes.reaches directory reached with ⟨isLast, usedRest, leadsRest⟩
    exact ⟨isLast, used + usedRest, (leads.mono makes.adds.keeps).append leadsRest⟩
  sameOrBarren := by
    intro descends
    rw [List.mem_cons, not_or] at descends
    rcases makes.sameOrBarren descends.2 with same | barren
    · exact Or.inl same
    · exact Or.inr (barren.of_leads (leads.mono makes.adds.keeps))

/-- Directories that are made in one that has just been made. -/
theorem enter (wellFormed : tree.WellFormed) (isDirectory : tree.entry? start = some .directory)
    (step : IsStep text) (absent : tree.entry? (start ++ [text]) = none)
    (makes :
      Makes (tree.put (start ++ [text]) .directory) (start ++ [text]) segments made outcome) :
    Makes tree start (text :: segments) made outcome := by
  have nonroot : start ++ [text] ≠ [] := by simp
  have adds := (addsDirectories_put nonroot absent).trans makes.adds
  have entered : made.entry? (start ++ [text]) = some .directory :=
    makes.adds.keeps _ _ (entry?_put_self nonroot)
  have leads : ∀ {used rest place}, made.Leads used (start ++ [text]) rest place →
      made.Leads used start (text :: rest) place :=
    fun onwards => .enter (adds.keeps _ _ isDirectory) step entered nofun onwards
  refine ⟨makes.wellFormed, adds, ?_, ?_⟩
  · intro directory reached
    rcases makes.reaches directory reached with ⟨isLast, used, leadsRest⟩
    exact ⟨isLast, used, leads leadsRest⟩
  · intro descends
    rw [List.mem_cons, not_or] at descends
    -- Nothing lies in the new directory, unless more was made in it.
    have barren : made.LeadsToBarren (start ++ [text]) segments := by
      rcases makes.sameOrBarren descends.2 with rfl | barren
      · exact (isBarren_put_directory wellFormed absent).leadsToBarren descends.2
      · exact barren
    exact Or.inr (barren.of_leads (leads .stop))

/-- Segments that lead nowhere else may stand anywhere. -/
theorem of_filter_isIdle
    (makes : Makes tree start (segments.filter fun segment => !FilePath.isIdle segment.toList)
      made outcome) : Makes tree start segments made outcome where
  wellFormed := makes.wellFormed
  adds := makes.adds
  reaches := by
    intro directory reached
    rcases makes.reaches directory reached with ⟨isLast, used, leads⟩
    exact ⟨isLast, used, leads.of_filter_isIdle isLast⟩
  sameOrBarren := by
    intro descends
    have descendsToo : ".." ∉ segments.filter fun segment => !FilePath.isIdle segment.toList :=
      fun member => descends (List.mem_filter.1 member).1
    rcases makes.sameOrBarren descendsToo with same | barren
    · exact Or.inl same
    · exact Or.inr fun _ _ leads => barren _ _ leads.filter_isIdle

end Makes

/-- Directories are made where the segments of the components lead that do not start at the
root. -/
theorem makes_of_makeDirectoriesFrom (wellFormed : tree.WellFormed)
    (isDirectory : tree.entry? start = some .directory) (rootless : Component.root ∉ components)
    (result : makeDirectoriesFrom reason? tree start components = (made, outcome)) :
    Makes tree start (components.filterMap Component.segment?) made outcome := by
  induction components generalizing tree start with
  | nil =>
      simp only [makeDirectoriesFrom, Prod.mk.injEq] at result
      rcases result with ⟨rfl, rfl⟩
      refine ⟨wellFormed, .refl tree, ?_, fun _ => Or.inl rfl⟩
      intro directory reached
      rcases Except.ok.inj reached with rfl
      exact ⟨isDirectory, 0, .stop⟩
  | cons component rest ih =>
      have restRootless : Component.root ∉ rest := fun member =>
        rootless (List.mem_cons_of_mem _ member)
      have fail := Makes.fail wellFormed start ((component :: rest).filterMap Component.segment?)
      cases component with
      | root => exact absurd List.mem_cons_self rootless
      | current => exact ih wellFormed isDirectory restRootless result
      | parent =>
          exact (ih wellFormed (wellFormed.entry?_dropLast isDirectory) restRootless result).up
            isDirectory
      | name text =>
          rw [makeDirectoriesFrom] at result
          split at result
          · rename_i location follows
            split at result
            · rename_i locationDirectory
              rcases leads_of_follow follows with ⟨_, _, leads⟩
              exact (ih wellFormed (isDirectory_iff.1 locationDirectory) restRootless result).lead
                leads
            · rcases Prod.mk.inj result with ⟨rfl, rfl⟩
              exact fail _
          · rename_i follows
            split at result
            · rcases Prod.mk.inj result with ⟨rfl, rfl⟩
              exact fail _
            · rename_i present
              rw [Bool.not_eq_true, Option.isSome_eq_false_iff, Option.isNone_iff_eq_none]
                at present
              split at result
              · rcases Prod.mk.inj result with ⟨rfl, rfl⟩
                exact fail _
              · have step := isStep_of_follow_eq_notFound isDirectory follows
                exact .enter wellFormed isDirectory step present
                  (ih (wellFormed_put_directory wellFormed isDirectory present)
                    (entry?_put_self (by simp)) restRootless result)
          · rcases Prod.mk.inj result with ⟨rfl, rfl⟩
            exact fail _

/-- Whether everything in a workspace lies in a directory and paths lead from a directory. -/
structure WellFormed (workspace : Workspace) : Prop where
  tree : workspace.tree.WellFormed
  directory : workspace.tree.entry? workspace.directory = some .directory

theorem WellFormed.entry?_startOf {workspace : Workspace} (wellFormed : workspace.WellFormed)
    (path : FilePath) : workspace.tree.entry? (workspace.startOf path) = some .directory := by
  rw [startOf]
  split
  · rfl
  · exact wellFormed.directory

/-- The directories of a path are made where the segments of its components lead. -/
theorem makes_of_makeDirectoriesUnless {workspace : Workspace} {path : FilePath}
    (wellFormed : workspace.WellFormed)
    (result : workspace.makeDirectoriesUnless reason? path = (made, outcome)) :
    Makes workspace.tree (workspace.startOf path) (path.components.filterMap Component.segment?)
      made outcome := by
  rcases path.exists_rootless_components with ⟨rest, rootless, components⟩
  have start := wellFormed.entry?_startOf path
  have segments : path.components.filterMap Component.segment? =
      rest.filterMap Component.segment? := by
    rw [components]
    split <;> rfl
  have resultFrom : makeDirectoriesFrom reason? workspace.tree (workspace.startOf path) rest =
      (made, outcome) := by
    rw [makeDirectoriesUnless, components] at result
    split at result
    · rename_i absolute
      rw [startOf, if_pos absolute]
      exact result
    · exact result
  rw [segments]
  exact makes_of_makeDirectoriesFrom wellFormed.tree start rootless resultFrom

/-- The directory of a path is made where the segments before its name lead. -/
theorem makes_directoryOf {workspace : Workspace} {path : FilePath} {init idles : List String}
    {name : String} (wellFormed : workspace.WellFormed)
    (segments : path.segments = init ++ name :: idles)
    (moves : FilePath.isIdle name.toList = false)
    (idle : ∀ segment ∈ idles, FilePath.isIdle segment.toList = true)
    (result : workspace.makeDirectoriesUnless reason? (directoryOf path) = (made, outcome)) :
    Makes workspace.tree (workspace.startOf path) init made outcome := by
  have makes := makes_of_makeDirectoriesUnless wellFormed result
  rcases segments_directoryOf segments moves idle with ⟨directorySegments, absolute⟩
  rw [directorySegments, startOf, absolute, ← startOf] at makes
  exact makes.of_filter_isIdle

end Workspace

end Registrar
