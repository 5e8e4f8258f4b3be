import Registrar.Proofs.Workspace.Directories

/-!
# What a publication leaves behind

A text that was written lies at one place, to which the path leads afterwards. Nothing else is
changed but for directories that were missing: the temporary file is gone, and what lay at the place
was no directory. A publication that fails or that finds its text in place is told by the equations
of `publish`.
-/

namespace Registrar

namespace Workspace

open FileTree

variable {workspace after : Workspace} {faults : Faults} {path : FilePath} {place : Location}
  {text : String}

/-- A path puts a file at its last segment, which is a name, in the directory to which the other
segments lead. -/
theorem placeOf_eq_ok (found : workspace.placeOf path = .ok place) :
    ∃ init name directory used, path.segments = init ++ [name] ∧ IsStep name ∧
      place = directory ++ [name] ∧ used ≤ linkLimit ∧
      workspace.tree.Leads used (workspace.startOf path) init directory ∧
      workspace.tree.entry? directory = some .directory := by
  simp only [placeOf] at found
  generalize keptEq : (path.segments.reverse.dropWhile String.isEmpty).reverse = kept at found
  rcases last : kept.getLast? with _ | name
  · simp [last] at found
  · rcases List.getLast?_eq_some_iff.1 last with ⟨init, rfl⟩
    simp only [last, List.dropLast_concat] at found
    rcases follows : workspace.tree.follow true linkLimit (workspace.startOf path) init with
      cause | directory
    · simp [follows] at found
    · simp only [follows] at found
      split at found
      · cases found
      · rename_i notDirectory
        split at found
        · cases found
        · rename_i notLong
          split at found
          · cases found
          · rename_i noProblem
            simp only [not_or, Decidable.not_not] at noProblem
            rcases noProblem with ⟨notCurrent, notParent, length⟩
            have same : path.segments = init ++ [name] := by
              rw [← keptEq] at length ⊢
              rw [List.length_reverse, ← @List.length_reverse _ path.segments] at length
              rw [List.IsSuffix.eq_of_length (List.dropWhile_suffix _) length,
                List.reverse_reverse]
            have notEmpty : name ≠ "" := by
              have first := List.head?_dropWhile_not String.isEmpty path.segments.reverse
              rw [← List.getLast?_reverse, keptEq, List.getLast?_concat] at first
              simpa [String.isEmpty_iff] using first
            rcases leads_of_follow follows with ⟨used, bound, leads⟩
            simp only [Bool.not_eq_true', Bool.not_eq_false] at notDirectory
            refine ⟨init, name, directory, used, same,
              ⟨notEmpty, notCurrent, notParent, Nat.not_lt.1 notLong⟩, ?_, bound, leads,
              isDirectory_iff.1 notDirectory⟩
            simpa using found.symm

/-- What a replaced file is made from: directories, a temporary file in the last one of them, and a
place. -/
theorem replaceFile_eq_ok
    (replaced : workspace.replaceFile faults path text = (after, .ok ())) :
    ∃ made directory begun,
      workspace.makeDirectoriesUnless (fun place => faults.cause? (.makeDirectory place))
        (directoryOf path) = (made, .ok directory) ∧
      begun = made.put (directory ++ [made.unusedName]) (.file ByteArray.empty) ∧
      ∃ place, placeOf { workspace with tree := begun } path = .ok place ∧
        after = { workspace with
          tree := (begun.put (directory ++ [made.unusedName]) (.file text.toUTF8)).move
            (directory ++ [made.unusedName]) place } := by
  rw [replaceFile] at replaced
  split at replaced
  · cases replaced
  · rename_i made directory makes
    split at replaced
    · cases replaced
    · simp only [fillAndRename] at replaced
      split at replaced
      · rename_i place placed
        simp only [Prod.mk.injEq, and_true] at replaced
        refine ⟨made, directory, _, makes, rfl, place, ?_, replaced.symm⟩
        revert placed
        rcases faults.check .writeTemporary with _ | _
        · exact nofun
        rcases faults.check .flushTemporary with _ | _
        · exact nofun
        rcases faults.check .syncTemporary with _ | _
        · exact nofun
        rcases faults.check .rename with _ | _
        · exact nofun
        exact fun placed => placed
      · cases replaced

/-- A tree in which a temporary file was filled and has taken its place. -/
def filled (made : FileTree) (directory place : Location) (content : ByteArray) : FileTree :=
  let temporary := directory ++ [made.unusedName]
  ((made.put temporary (.file ByteArray.empty)).put temporary (.file content)).move temporary place

/-- Nothing shows that the file at its place was a temporary one. -/
theorem entry?_filled {made : FileTree} {directory location : Location} {content : ByteArray}
    (nonroot : place ≠ []) :
    FileTree.entry? (filled made directory place content) location =
      if location = place then some (.file content) else made.entry? location := by
  have temporaryNonroot : directory ++ [made.unusedName] ≠ [] := by simp
  rw [filled, entry?_move temporaryNonroot nonroot (entry?_put_self temporaryNonroot)]
  split
  · rfl
  · split
    · rename_i temporary
      rw [temporary, entry?_unusedName]
    · rename_i differs
      rw [entry?_put_of_ne temporaryNonroot differs, entry?_put_of_ne temporaryNonroot differs]

theorem wellFormed_filled {made : FileTree} {directory : Location} {name : String}
    {content : ByteArray} (wellFormed : made.WellFormed)
    (isDirectory : made.entry? directory = some .directory)
    (notDirectory : made.entry? (directory ++ [name]) ≠ some .directory) :
    FileTree.WellFormed (filled made directory (directory ++ [name]) content) := by
  have nonroot : directory ++ [made.unusedName] ≠ [] := by simp
  have absent := made.entry?_unusedName directory
  have differs : directory ≠ directory ++ [made.unusedName] := by simp
  have parent : made.entry? (directory ++ [made.unusedName]).dropLast = some .directory := by
    rw [List.dropLast_concat, isDirectory]
  have begunWellFormed := @wellFormed_put _ _ _ _ (.file ByteArray.empty) wellFormed nonroot parent
    (by simp [absent])
  have filledWellFormed :
      ((made.put (directory ++ [made.unusedName]) (.file ByteArray.empty)).put
        (directory ++ [made.unusedName]) (.file content)).WellFormed := by
    apply wellFormed_put begunWellFormed nonroot
    · rw [List.dropLast_concat, entry?_put_of_ne nonroot differs, isDirectory]
    · simp [entry?_put_self nonroot]
  apply wellFormed_move filledWellFormed nonroot (by simp) (entry?_put_self nonroot)
    (by simp)
  · rw [List.dropLast_concat, entry?_put_of_ne nonroot differs, entry?_put_of_ne nonroot differs,
      isDirectory]
  · rw [entry?_put nonroot, entry?_put nonroot]
    split
    · simp
    · exact notDirectory

/-- What a text leaves behind that was written to a path. -/
structure IsWritten (before after : Workspace) (path : FilePath) (content : ByteArray)
    (place : Location) : Prop where
  descends : Component.parent ∉ path.components
  directory : after.directory = before.directory
  wellFormed : after.WellFormed
  located : after.locate path true = .ok place
  locatedItself : after.locate path false = .ok place
  locatedBefore : ∀ entry, before.tree.entry? place = some entry →
    before.locate path false = .ok place
  content : after.tree.entry? place = some (.file content)
  replaced : before.tree.entry? place ≠ some .directory
  kept : ∀ location entry, location ≠ place → before.tree.entry? location = some entry →
    after.tree.entry? location = some entry
  fresh : ∀ location entry, location ≠ place → after.tree.entry? location = some entry →
    before.tree.entry? location = some entry ∨ entry = .directory

theorem IsWritten.read {before : Workspace} {content : ByteArray}
    (written : IsWritten before after path content place) : after.read path = .ok content := by
  rw [Workspace.read, written.located]
  simp only [written.content]

/-- A path that is neither refused nor unreadable, but at most missing. -/
structure IsReplaceable (workspace : Workspace) (path : FilePath) : Prop where
  descends : Component.parent ∉ path.components
  notDirectory : workspace.isDirectory path = false
  readable : ∀ cause, workspace.locate path true = .error cause → cause = .notFound

/-- Whatever a replaceable path leads to, through however many links, is no directory. -/
theorem IsReplaceable.ne_directory (replaceable : workspace.IsReplaceable path)
    (nonempty : path.text ≠ "") {used : Nat}
    (leads : workspace.tree.Leads used (workspace.startOf path) path.segments place) :
    workspace.tree.entry? place ≠ some .directory := by
  intro isDirectory
  have openable := isOpenable_of_locate nonempty replaceable.readable
  have located := (locate_of_isOpenable openable workspace true).trans
    (follow_of_leads leads linkLimit)
  split at located
  · have notDirectory := replaceable.notDirectory
    rw [Workspace.isDirectory, located] at notDirectory
    simp [isDirectory_iff.2 isDirectory] at notDirectory
  · cases replaceable.readable _ located

theorem text_ne_empty_of_segments {init : List String} {name : String}
    (segments : path.segments = init ++ [name]) (notEmpty : name ≠ "") : path.text ≠ "" := by
  intro empty
  have single : path.segments = [""] := by
    rw [FilePath.segments, empty]
    rfl
  rw [single] at segments
  have last := congrArg List.getLast? segments
  simp only [List.getLast?_concat, List.getLast?_singleton, Option.some.injEq] at last
  exact notEmpty last.symm

/-- A replaceable path puts a file neither in the place of a directory nor in the place of a link
that leads to one: directories were missing, and nothing lies there, or the path leads there. -/
theorem IsReplaceable.at_place {made : FileTree} {directory : Location} {init : List String}
    {name : String} {used : Nat} (replaceable : workspace.IsReplaceable path)
    (segments : path.segments = init ++ [name]) (step : IsStep name)
    (sameOrBarren : made = workspace.tree ∨ made.LeadsToBarren (workspace.startOf path) init)
    (isDirectory : made.entry? directory = some .directory)
    (leads : made.Leads used (workspace.startOf path) init directory) :
    made.entry? (directory ++ [name]) ≠ some .directory ∧
      ∀ target usedLink goal, made.entry? (directory ++ [name]) = some (.link target) →
        made.Leads usedLink (linkStart directory target) target.segments goal →
        made.entry? goal ≠ some .directory := by
  have nonempty := text_ne_empty_of_segments segments step.1
  have notDirectory : ∀ {usedPath goal}, made.Leads usedPath (workspace.startOf path)
      (init ++ [name]) goal → made.entry? goal ≠ some .directory := by
    intro usedPath goal whole
    rcases sameOrBarren with rfl | barren
    · rw [← segments] at whole
      exact replaceable.ne_directory nonempty whole
    · rcases whole.split with ⟨_, _, _, _, here, onwards⟩
      exact absurd onwards ((barren _ _ here).not_leads step.isIdle_eq_false step.2.2.1)
  constructor
  · intro placeDirectory
    exact notDirectory (leads.append (.enter isDirectory step placeDirectory nofun .stop))
      placeDirectory
  · intro target usedLink goal present toGoal
    rw [← List.append_nil target.segments] at toGoal
    exact notDirectory (leads.append (.link isDirectory step present toGoal))

/-- A file that lies in a tree besides everything else leads to no directory. -/
theorem leads_of_leads_put_file {tree : FileTree} {location start goal : Location}
    {content : ByteArray} {used : Nat} {segments : List String} (nonroot : location ≠ [])
    (leads : (tree.put location (.file content)).Leads used start segments goal)
    (isDirectory : FileTree.entry? (tree.put location (.file content)) goal = some .directory) :
    tree.Leads used start segments goal := by
  have elsewhere : ∀ other entry, (∀ bytes, entry ≠ .file bytes) →
      FileTree.entry? (tree.put location (.file content)) other = some entry →
      tree.entry? other = some entry := by
    intro other entry noFile present
    rw [entry?_put nonroot] at present
    split at present
    · exact absurd (Option.some.inj present).symm (noFile content)
    · exact present
  exact leads.transfer isDirectory (fun other => elsewhere other _ (by simp))
    fun _ _ _ _ _ present _ _ => elsewhere _ _ (by simp) present

/-- What leads to a directory still leads there where a file has taken a place in it at which there
was no directory and no link that leads to one. -/
theorem leads_filled {made : FileTree} {start directory : Location} {init : List String}
    {name : String} {used : Nat} {content : ByteArray}
    (leads : made.Leads used start init directory)
    (isDirectory : made.entry? directory = some .directory)
    (notDirectory : made.entry? (directory ++ [name]) ≠ some .directory)
    (noDirectoryLink : ∀ target usedLink goal, made.entry? (directory ++ [name]) =
      some (.link target) → made.Leads usedLink (linkStart directory target) target.segments goal →
        made.entry? goal ≠ some .directory) :
    (filled made directory (directory ++ [name]) content).Leads used start init directory := by
  have nonroot : directory ++ [name] ≠ [] := by simp
  apply leads.transfer isDirectory
  · intro location present
    have differs : location ≠ directory ++ [name] := by
      rintro rfl
      exact notDirectory present
    rw [entry?_filled nonroot, if_neg differs, present]
  · intro linkDirectory segment target usedLink goal present toGoal goalDirectory
    have differs : linkDirectory ++ [segment] ≠ directory ++ [name] := by
      intro equal
      rcases List.append_inj' equal rfl with ⟨rfl, last⟩
      rcases List.singleton_inj.1 last with rfl
      exact noDirectoryLink target usedLink goal present toGoal goalDirectory
    rw [entry?_filled nonroot, if_neg differs, present]

/-- Where a file is replaced at a replaceable path, the text is written there. -/
theorem isWritten_of_replaceFile (wellFormed : workspace.WellFormed)
    (replaceable : workspace.IsReplaceable path)
    (replaced : workspace.replaceFile faults path text = (after, .ok ())) :
    ∃ place, IsWritten workspace after path text.toUTF8 place := by
  rcases replaceFile_eq_ok replaced with
    ⟨made, directory, begun, makes, begunEq, place, placed, afterEq⟩
  rcases placeOf_eq_ok placed with
    ⟨init, name, here, used, segments, step, placeEq, bound, begunLeads, hereDirectory⟩
  simp only at begunLeads hereDirectory
  have nonempty := text_ne_empty_of_segments segments step.1
  have openable := isOpenable_of_locate nonempty replaceable.readable
  -- The directories that were made are those in which the file is put.
  rcases makes_directoryOf wellFormed segments step.isIdle_eq_false (by simp) makes with
    ⟨madeWellFormed, adds, reaches, sameOrBarren⟩
  rcases reaches directory rfl with ⟨isDirectory, _, madeLeads⟩
  have descends : ".." ∉ init := by
    intro member
    apply FilePath.parent_not_mem_segments replaceable.descends
    rw [segments]
    exact List.mem_append_left _ member
  rw [begunEq] at begunLeads hereDirectory
  have hereLeads := leads_of_leads_put_file (by simp) begunLeads hereDirectory
  rcases hereLeads.unique madeLeads with rfl
  rcases replaceable.at_place segments step (sameOrBarren descends) isDirectory hereLeads with
    ⟨notDirectory, noDirectoryLink⟩
  -- So the path leads to the place through what the file does not replace.
  subst placeEq
  have nonroot : here ++ [name] ≠ [] := by simp
  have tree : after.tree = filled made here (here ++ [name]) text.toUTF8 := by
    rw [afterEq, begunEq]
    rfl
  have entries : ∀ location, after.tree.entry? location =
      if location = here ++ [name] then some (.file text.toUTF8) else made.entry? location :=
    fun location => by rw [tree, entry?_filled nonroot]
  have directories : ∀ location, made.entry? location = some .directory →
      after.tree.entry? location = some .directory := by
    intro location present
    rw [entries, if_neg (by rintro rfl; exact notDirectory present), present]
  have afterLeads : after.tree.Leads used (workspace.startOf path) init here := by
    rw [tree]
    exact leads_filled hereLeads isDirectory notDirectory noDirectoryLink
  have placeEntry : after.tree.entry? (here ++ [name]) = some (.file text.toUTF8) := by
    rw [entries, if_pos rfl]
  have afterDirectory : after.directory = workspace.directory := by rw [afterEq]
  have afterStart : after.startOf path = workspace.startOf path := by
    rw [startOf, startOf, afterDirectory]
  have whole := afterLeads.append
    (.enter (directories _ isDirectory) step placeEntry (by simp) .stop)
  rw [Nat.add_zero, ← segments, ← afterStart] at whole
  rw [← afterStart] at afterLeads
  exact ⟨here ++ [name],
    { descends := replaceable.descends
      directory := afterDirectory
      wellFormed := by
        refine ⟨?_, ?_⟩
        · rw [tree]
          exact wellFormed_filled madeWellFormed isDirectory notDirectory
        · rw [afterDirectory]
          exact directories _ (adds.keeps _ _ wellFormed.directory)
      located := locate_eq_ok_iff.2 ⟨openable, used, bound, whole⟩
      locatedItself := locate_last openable segments step afterLeads bound
        (directories _ isDirectory) placeEntry
      locatedBefore := by
        intro entry present
        rcases sameOrBarren descends with rfl | barren
        · exact locate_last openable segments step hereLeads bound isDirectory present
        · have absent := barren _ _ hereLeads name
          rw [adds.keeps _ _ present] at absent
          cases absent
      content := placeEntry
      replaced := fun present => notDirectory (adds.keeps _ _ present)
      kept := by
        intro location entry differs present
        rw [entries, if_neg differs, adds.keeps _ _ present]
      fresh := by
        intro location entry differs present
        rw [entries, if_neg differs] at present
        by_cases entryDirectory : entry = .directory
        · exact Or.inr entryDirectory
        · exact Or.inl (adds.entry?_of_ne_directory present entryDirectory) }⟩

/-- What a comparison has seen: a file, which it compared with the text, or none. Nothing is
reported missing that is there. -/
theorem freshness_eq_ok {freshness : Freshness}
    (truthful : faults.cause? .readOld = some .notFound → workspace.read path = .error .notFound)
    (compared : workspace.freshness faults path text = .ok freshness) :
    (∃ content, workspace.read path = .ok content ∧
        freshness = if Digest.ofBytes content = Digest.ofText text then .upToDate else .stale) ∨
      workspace.read path = .error .notFound ∧ freshness = .missing := by
  rw [Workspace.freshness, Faults.check] at compared
  rcases cause : faults.cause? .readOld with _ | found
  · simp only [cause, bind, Except.bind] at compared
    rcases outcome : workspace.read path with found | content
    · rw [outcome] at compared
      cases found with
      | notFound => exact Or.inr ⟨rfl, (Except.ok.inj compared).symm⟩
      | _ => cases compared
    · rw [outcome] at compared
      exact Or.inl ⟨content, rfl, (Except.ok.inj compared).symm⟩
  · simp only [cause, bind, Except.bind] at compared
    cases found with
    | notFound => exact Or.inr ⟨truthful cause, (Except.ok.inj compared).symm⟩
    | _ => cases compared

theorem locate_of_read {cause : FileError} (failed : workspace.locate path true = .error cause) :
    workspace.read path = .error cause := by
  rw [Workspace.read, failed]

/-- A text that was written lies at the path. What else lies in the tree lay there before or is a
directory that was missing. -/
theorem isWritten_of_publish (wellFormed : workspace.WellFormed)
    (truthful : faults.cause? .readOld = some .notFound → workspace.read path = .error .notFound)
    (published : workspace.publish faults path text = (after, .ok .written)) :
    ∃ place, IsWritten workspace after path text.toUTF8 place := by
  rw [publish] at published
  rcases problem : workspace.outputPathProblem? path with _ | found
  · simp only [problem] at published
    rcases compared : workspace.freshness faults path text with failure | freshness
    · simp [compared] at published
    · have replaceable : workspace.IsReplaceable path := by
        rw [outputPathProblem?] at problem
        split at problem
        · cases problem
        · rename_i descends
          split at problem
          · cases problem
          · rename_i notDirectory
            refine ⟨by simpa using descends, by simpa using notDirectory, ?_⟩
            intro cause failed
            rcases freshness_eq_ok truthful compared with ⟨content, seen, _⟩ | ⟨seen, _⟩
            · rw [locate_of_read failed] at seen
              cases seen
            · rw [locate_of_read failed] at seen
              exact Except.error.inj seen
      rcases replaced : workspace.replaceFile faults path text with ⟨final, cause | _⟩
      · rw [compared, replaced] at published
        cases freshness <;> simp at published
      · have same : final = after := by
          rw [compared, replaced] at published
          cases freshness <;> simp_all
        subst same
        exact isWritten_of_replaceFile wellFormed replaceable replaced
  · simp [problem] at published

end Workspace

end Registrar
