import Registrar.Proofs.FilePath.Segments
import Registrar.Proofs.FileTree.Entries

/-!
# Where segments lead

`FileTree.Leads` tells, apart from any limit on links, that segments lead from a location to
another one, and through how many links. `FileTree.follow` finds this location where the limit
allows for these links and reports too many links where it does not. All that is used of `follow`
in other modules is derived from this relation.
-/

namespace Registrar

namespace FileTree

/-- Whether a segment is taken as a name. -/
def IsStep (segment : String) : Prop :=
  segment ≠ "" ∧ segment ≠ "." ∧ segment ≠ ".." ∧ segment.utf8ByteSize ≤ nameLimit

theorem IsStep.isIdle_eq_false {segment : String} (step : IsStep segment) :
    FilePath.isIdle segment.toList = false := by
  rw [Bool.eq_false_iff, Ne, FilePath.isIdle_toList, not_or]
  exact ⟨step.1, step.2.1⟩

/-- The directory from which the target of a link leads, where the link lies in another one. -/
def linkStart (directory : Location) (target : FilePath) : Location :=
  if target.isAbsolute then [] else directory

/-- Segments lead from one location to another one through a number of links. -/
inductive Leads (tree : FileTree) : Nat → Location → List String → Location → Prop
  | stop {start : Location} : Leads tree 0 start [] start
  | idle {links : Nat} {start place : Location} {segment : String} {rest : List String}
      (directory : tree.entry? start = some .directory) (stays : segment = "" ∨ segment = ".")
      (leads : Leads tree links start rest place) : Leads tree links start (segment :: rest) place
  | up {links : Nat} {start place : Location} {rest : List String}
      (directory : tree.entry? start = some .directory)
      (leads : Leads tree links start.dropLast rest place) :
      Leads tree links start (".." :: rest) place
  | enter {links : Nat} {start place : Location} {segment : String} {rest : List String}
      {entry : Entry} (directory : tree.entry? start = some .directory) (step : IsStep segment)
      (present : tree.entry? (start ++ [segment]) = some entry)
      (noLink : ∀ target, entry ≠ .link target)
      (leads : Leads tree links (start ++ [segment]) rest place) :
      Leads tree links start (segment :: rest) place
  | link {links : Nat} {start place : Location} {segment : String} {rest : List String}
      {target : FilePath} (directory : tree.entry? start = some .directory) (step : IsStep segment)
      (present : tree.entry? (start ++ [segment]) = some (.link target))
      (leads : Leads tree links (linkStart start target) (target.segments ++ rest) place) :
      Leads tree (links + 1) start (segment :: rest) place

variable {tree : FileTree}

@[simp]
theorem follow_nil (followLast : Bool) (links : Nat) (start : Location) :
    tree.follow followLast links start [] = .ok start := by
  cases links <;> rfl

/-- What follows a link within a limit. -/
def followLink (tree : FileTree) (followLast : Bool) (links : Nat) (start : Location)
    (segments : List String) : Except FileError Location :=
  match links with
  | 0 => .error .tooManyLinks
  | links + 1 => tree.follow followLast links start segments

theorem follow_eq_followWith (followLast : Bool) (links : Nat) :
    tree.follow followLast links =
      tree.followWith followLast (tree.followLink followLast links) := by
  cases links <;> rfl

section Step

variable {followLast : Bool} {links : Nat} {start : Location} {segment : String}
  {rest : List String}

theorem follow_idle (directory : tree.entry? start = some .directory)
    (stays : segment = "" ∨ segment = ".") :
    tree.follow followLast links start (segment :: rest) =
      tree.follow followLast links start rest := by
  simp only [follow_eq_followWith, followWith, isDirectory_iff.2 directory, stays, if_true,
    Bool.not_true, Bool.false_eq_true, if_false]

theorem follow_up (directory : tree.entry? start = some .directory) :
    tree.follow followLast links start (".." :: rest) =
      tree.follow followLast links start.dropLast rest := by
  have moves : ¬((".." : String) = "" ∨ (".." : String) = ".") := by decide
  simp only [follow_eq_followWith, followWith, isDirectory_iff.2 directory, moves, if_true,
    Bool.not_true, Bool.false_eq_true, if_false]

theorem follow_step (directory : tree.entry? start = some .directory) (step : IsStep segment) :
    tree.follow followLast links start (segment :: rest) =
      match tree.entry? (start ++ [segment]) with
      | none => .error .notFound
      | some (.link target) =>
        if rest.isEmpty && !followLast then .ok (start ++ [segment])
        else tree.followLink followLast links (linkStart start target) (target.segments ++ rest)
      | some _ => tree.follow followLast links (start ++ [segment]) rest := by
  rcases step with ⟨notEmpty, notCurrent, notParent, short⟩
  simp only [follow_eq_followWith, followWith, isDirectory_iff.2 directory, notEmpty, notCurrent,
    notParent, Nat.not_lt.2 short, or_self, Bool.not_true, Bool.false_eq_true, if_false]
  rcases tree.entry? (start ++ [segment]) with _ | (content | _ | target)
  · rfl
  · rfl
  · rfl
  · cases links <;> rfl

/-- The segments that `follow` distinguishes. -/
theorem segment_cases (segment : String) :
    (segment = "" ∨ segment = ".") ∨ segment = ".." ∨ IsStep segment ∨
      ¬(segment = "" ∨ segment = ".") ∧ segment ≠ ".." ∧ nameLimit < segment.utf8ByteSize := by
  by_cases stays : segment = "" ∨ segment = "."
  · exact Or.inl stays
  · by_cases parent : segment = ".."
    · exact Or.inr (Or.inl parent)
    · rcases Nat.lt_or_ge nameLimit segment.utf8ByteSize with long | short
      · exact Or.inr (Or.inr (Or.inr ⟨stays, parent, long⟩))
      · rw [not_or] at stays
        exact Or.inr (Or.inr (Or.inl ⟨stays.1, stays.2, parent, short⟩))

theorem follow_long (directory : tree.entry? start = some .directory)
    (moves : ¬(segment = "" ∨ segment = ".")) (notParent : segment ≠ "..")
    (long : nameLimit < segment.utf8ByteSize) :
    tree.follow followLast links start (segment :: rest) = .error .nameTooLong := by
  simp only [follow_eq_followWith, followWith, isDirectory_iff.2 directory, moves, notParent, long,
    if_true, Bool.not_true, Bool.false_eq_true, if_false]

theorem follow_notDirectory (notDirectory : tree.entry? start ≠ some .directory) :
    tree.follow followLast links start (segment :: rest) = .error .notADirectory := by
  have isDirectory : tree.isDirectory start = false := by
    rw [Bool.eq_false_iff]
    exact fun isDirectory => notDirectory (isDirectory_iff.1 isDirectory)
  simp only [follow_eq_followWith, followWith, isDirectory, Bool.not_false, if_true]

end Step

/-- Where the first segments lead somewhere, `follow` goes on from there with the links that are
left, or reports too many links. -/
theorem follow_append {followLast : Bool} {used : Nat} {start middle : Location}
    {left right : List String} (leads : tree.Leads used start left middle)
    (onwards : right ≠ [] ∨ followLast = true) (links : Nat) :
    tree.follow followLast links start (left ++ right) =
      if used ≤ links then tree.follow followLast (links - used) middle right
      else .error .tooManyLinks := by
  induction leads generalizing links with
  | stop => simp
  | idle directory stays _ ih => rw [List.cons_append, follow_idle directory stays, ih]
  | up directory _ ih => rw [List.cons_append, follow_up directory, ih]
  | @enter _ _ _ _ _ entry directory step present noLink _ ih =>
      rw [List.cons_append, follow_step directory step, present]
      rcases entry with content | _ | target
      · exact ih links
      · exact ih links
      · exact absurd rfl (noLink target)
  | @link _ _ _ _ rest _ directory step present _ ih =>
      have follows : ((rest ++ right).isEmpty && !followLast) = false := by
        rcases onwards with nonempty | rfl <;> simp_all
      rw [List.cons_append, follow_step directory step, present]
      simp only [follows, Bool.false_eq_true, if_false]
      cases links with
      | zero => simp [followLink]
      | succ links => simp [followLink, ← List.append_assoc, ih]

/-- Where segments lead somewhere, `follow` finds it within a large enough limit and reports too
many links within any other one. -/
theorem follow_of_leads {used : Nat} {start place : Location} {segments : List String}
    (leads : tree.Leads used start segments place) (links : Nat) :
    tree.follow true links start segments =
      if used ≤ links then .ok place else .error .tooManyLinks := by
  have followed := @follow_append _ true _ _ _ _ [] leads (Or.inr rfl) links
  simpa using followed

/-- Where `follow` finds a location, segments lead there through links within the limit. -/
theorem leads_of_follow {links : Nat} {start place : Location} {segments : List String}
    (found : tree.follow true links start segments = .ok place) :
    ∃ used, used ≤ links ∧ tree.Leads used start segments place := by
  match segments with
  | [] =>
      rw [follow_nil, Except.ok.injEq] at found
      subst found
      exact ⟨0, Nat.zero_le _, .stop⟩
  | segment :: rest =>
      by_cases directory : tree.entry? start = some .directory
      · rcases segment_cases segment with stays | rfl | step | ⟨moves, notParent, long⟩
        · rw [follow_idle directory stays] at found
          rcases leads_of_follow found with ⟨used, bound, leads⟩
          exact ⟨used, bound, .idle directory stays leads⟩
        · rw [follow_up directory] at found
          rcases leads_of_follow found with ⟨used, bound, leads⟩
          exact ⟨used, bound, .up directory leads⟩
        · rw [follow_step directory step] at found
          rcases present : tree.entry? (start ++ [segment]) with _ | (content | _ | target) <;>
            rw [present] at found
          · cases found
          · rcases leads_of_follow found with ⟨used, bound, leads⟩
            exact ⟨used, bound, .enter directory step present nofun leads⟩
          · rcases leads_of_follow found with ⟨used, bound, leads⟩
            exact ⟨used, bound, .enter directory step present nofun leads⟩
          · simp only [Bool.not_true, Bool.and_false, Bool.false_eq_true, if_false] at found
            cases links with
            | zero => cases found
            | succ links =>
                rcases leads_of_follow found with ⟨used, bound, leads⟩
                exact ⟨used + 1, by omega, .link directory step present leads⟩
        · rw [follow_long directory moves notParent long] at found
          cases found
      · rw [follow_notDirectory directory] at found
        cases found
termination_by (links, segments.length)

namespace Leads

theorem unique {usedLeft usedRight : Nat} {start left right : Location} {segments : List String}
    (leadsLeft : tree.Leads usedLeft start segments left)
    (leadsRight : tree.Leads usedRight start segments right) : left = right := by
  have foundLeft := follow_of_leads leadsLeft (usedLeft + usedRight)
  have foundRight := follow_of_leads leadsRight (usedLeft + usedRight)
  rw [if_pos (by omega)] at foundLeft foundRight
  exact Except.ok.inj (foundLeft.symm.trans foundRight)

theorem append {usedLeft usedRight : Nat} {start middle place : Location}
    {left right : List String} (leadsLeft : tree.Leads usedLeft start left middle)
    (leadsRight : tree.Leads usedRight middle right place) :
    tree.Leads (usedLeft + usedRight) start (left ++ right) place := by
  induction leadsLeft with
  | stop => simpa using leadsRight
  | idle directory stays _ ih => exact .idle directory stays (ih leadsRight)
  | up directory _ ih => exact .up directory (ih leadsRight)
  | enter directory step present noLink _ ih =>
      exact .enter directory step present noLink (ih leadsRight)
  | link directory step present _ ih =>
      have rest := ih leadsRight
      rw [List.append_assoc] at rest
      rw [Nat.add_right_comm]
      exact .link directory step present rest

theorem split {used : Nat} {start place : Location} {left right : List String}
    (leads : tree.Leads used start (left ++ right) place) :
    ∃ usedLeft usedRight middle, used = usedLeft + usedRight ∧
      tree.Leads usedLeft start left middle ∧ tree.Leads usedRight middle right place := by
  generalize whole : left ++ right = segments at leads
  induction leads generalizing left with
  | @stop start =>
      rcases List.append_eq_nil_iff.1 whole with ⟨rfl, rfl⟩
      exact ⟨0, 0, start, rfl, .stop, .stop⟩
  | @idle links start place segment rest directory stays leads ih =>
      rcases List.append_eq_cons_iff.1 whole with ⟨rfl, rfl⟩ | ⟨others, rfl, rfl⟩
      · exact ⟨0, links, start, by simp, .stop, .idle directory stays leads⟩
      · rcases ih rfl with ⟨usedLeft, usedRight, middle, sum, first, second⟩
        exact ⟨usedLeft, usedRight, middle, sum, .idle directory stays first, second⟩
  | @up links start place rest directory leads ih =>
      rcases List.append_eq_cons_iff.1 whole with ⟨rfl, rfl⟩ | ⟨others, rfl, rfl⟩
      · exact ⟨0, links, start, by simp, .stop, .up directory leads⟩
      · rcases ih rfl with ⟨usedLeft, usedRight, middle, sum, first, second⟩
        exact ⟨usedLeft, usedRight, middle, sum, .up directory first, second⟩
  | @enter links start place segment rest entry directory step present noLink leads ih =>
      rcases List.append_eq_cons_iff.1 whole with ⟨rfl, rfl⟩ | ⟨others, rfl, rfl⟩
      · exact ⟨0, links, start, by simp, .stop, .enter directory step present noLink leads⟩
      · rcases ih rfl with ⟨usedLeft, usedRight, middle, sum, first, second⟩
        exact ⟨usedLeft, usedRight, middle, sum, .enter directory step present noLink first, second⟩
  | @link links start place segment rest target directory step present leads ih =>
      rcases List.append_eq_cons_iff.1 whole with ⟨rfl, rfl⟩ | ⟨others, rfl, rfl⟩
      · exact ⟨0, links + 1, start, by simp, .stop, .link directory step present leads⟩
      · rcases ih (List.append_assoc _ _ _) with ⟨usedLeft, usedRight, middle, sum, first, second⟩
        refine ⟨usedLeft + 1, usedRight, middle, by omega, ?_, second⟩
        exact .link directory step present first

/-- Whatever leads to a directory starts in one. -/
theorem start_isDirectory {used : Nat} {start place : Location} {segments : List String}
    (leads : tree.Leads used start segments place)
    (isDirectory : tree.entry? place = some .directory) :
    tree.entry? start = some .directory := by
  cases leads with
  | stop => exact isDirectory
  | idle directory _ _ => exact directory
  | up directory _ => exact directory
  | enter directory _ _ _ _ => exact directory
  | link directory _ _ _ => exact directory

/-- Segments lead to a directory wherever the directories and the links on the way lie, where no
link is taken into account that does not lead to a directory itself. -/
theorem transfer {other : FileTree} {used : Nat} {start place : Location}
    {segments : List String} (leads : tree.Leads used start segments place)
    (isDirectory : tree.entry? place = some .directory)
    (directories : ∀ location, tree.entry? location = some .directory →
      other.entry? location = some .directory)
    (links : ∀ directory segment target usedLink goal,
      tree.entry? (directory ++ [segment]) = some (.link target) →
      tree.Leads usedLink (linkStart directory target) target.segments goal →
      tree.entry? goal = some .directory →
      other.entry? (directory ++ [segment]) = some (.link target)) :
    other.Leads used start segments place := by
  induction leads with
  | stop => exact .stop
  | idle directory stays _ ih =>
      exact .idle (directories _ directory) stays (ih isDirectory)
  | up directory _ ih => exact .up (directories _ directory) (ih isDirectory)
  | enter directory step present noLink leads ih =>
      have entered := leads.start_isDirectory isDirectory
      exact .enter (directories _ directory) step (directories _ entered) nofun (ih isDirectory)
  | link directory step present leads ih =>
      rcases leads.split with ⟨_, _, goal, _, toGoal, fromGoal⟩
      have goalDirectory := fromGoal.start_isDirectory isDirectory
      exact .link (directories _ directory) step
        (links _ _ _ _ goal present toGoal goalDirectory) (ih isDirectory)

/-- Segments lead to the same location in a tree in which more lies, whatever the files hold. -/
theorem mono_of_files {other : FileTree} {used : Nat} {start place : Location}
    {segments : List String} (leads : tree.Leads used start segments place)
    (kept : ∀ location entry, tree.entry? location = some entry →
      (∀ content, entry ≠ .file content) → other.entry? location = some entry)
    (files : ∀ location content, tree.entry? location = some (.file content) →
      ∃ content, other.entry? location = some (.file content)) :
    other.Leads used start segments place := by
  induction leads with
  | stop => exact .stop
  | idle directory stays _ ih => exact .idle (kept _ _ directory nofun) stays ih
  | up directory _ ih => exact .up (kept _ _ directory nofun) ih
  | @enter _ _ _ _ _ entry directory step present noLink _ ih =>
      rcases entry with content | _ | target
      · rcases files _ _ present with ⟨content, presentToo⟩
        exact .enter (kept _ _ directory nofun) step presentToo nofun ih
      · exact .enter (kept _ _ directory nofun) step (kept _ _ present nofun) nofun ih
      · exact absurd rfl (noLink target)
  | link directory step present _ ih =>
      exact .link (kept _ _ directory nofun) step (kept _ _ present nofun) ih

/-- Segments lead to the same location in a tree in which more lies. -/
theorem mono {other : FileTree} {used : Nat} {start place : Location} {segments : List String}
    (leads : tree.Leads used start segments place)
    (larger : ∀ location entry, tree.entry? location = some entry →
      other.entry? location = some entry) : other.Leads used start segments place :=
  leads.mono_of_files (fun location entry present _ => larger location entry present)
    fun location content present => ⟨content, larger location _ present⟩

/-- Segments that lead nowhere else may stand anywhere on the way to a directory. -/
theorem of_filter_isIdle {used : Nat} {start place : Location} {segments : List String}
    (leads : tree.Leads used start
      (segments.filter fun segment => !FilePath.isIdle segment.toList) place)
    (isDirectory : tree.entry? place = some .directory) :
    tree.Leads used start segments place := by
  induction segments generalizing used start with
  | nil => exact leads
  | cons segment rest ih =>
      have directory := leads.start_isDirectory isDirectory
      cases idle : FilePath.isIdle segment.toList
      · rw [List.filter_cons_of_pos (by simp [idle])] at leads
        cases leads with
        | idle _ stays _ => simp [FilePath.isIdle_toList.2 stays] at idle
        | up directory leads => exact .up directory (ih leads)
        | enter directory step present noLink leads =>
            exact .enter directory step present noLink (ih leads)
        | link directory step present leads =>
            rcases leads.split with ⟨usedLeft, usedRight, middle, rfl, toTarget, fromTarget⟩
            exact .link directory step present (toTarget.append (ih fromTarget))
      · rw [List.filter_cons_of_neg (by simp [idle])] at leads
        exact .idle directory (FilePath.isIdle_toList.1 idle) (ih leads)

/-- Segments that lead nowhere else may be left out. -/
theorem filter_isIdle {used : Nat} {start place : Location} {segments : List String}
    (leads : tree.Leads used start segments place) :
    tree.Leads used start (segments.filter fun segment => !FilePath.isIdle segment.toList)
      place := by
  induction segments generalizing used start with
  | nil => exact leads
  | cons segment rest ih =>
      have kept : ∀ {segment}, FilePath.isIdle segment.toList = false →
          (segment :: rest).filter (fun segment => !FilePath.isIdle segment.toList) =
            segment :: rest.filter fun segment => !FilePath.isIdle segment.toList :=
        fun moves => List.filter_cons_of_pos (by simp [moves])
      cases leads with
      | idle _ stays leads =>
          rw [List.filter_cons_of_neg (by simp [FilePath.isIdle_toList.2 stays])]
          exact ih leads
      | up directory leads =>
          rw [kept (by decide)]
          exact .up directory (ih leads)
      | enter directory step present noLink leads =>
          rw [kept step.isIdle_eq_false]
          exact .enter directory step present noLink (ih leads)
      | link directory step present leads =>
          rcases leads.split with ⟨usedLeft, usedRight, middle, rfl, toTarget, fromTarget⟩
          rw [kept step.isIdle_eq_false]
          exact .link directory step present (toTarget.append (ih fromTarget))

end Leads

end FileTree

/-- Whether the text of a path is one that can be followed at all. -/
structure FilePath.IsOpenable (path : FilePath) : Prop where
  nonempty : path.text ≠ ""
  noZero : '\x00' ∉ path.text.toList
  short : path.text.utf8ByteSize < Workspace.pathLimit

namespace Workspace

open FileTree

theorem toOption_eq_some_iff {ε α : Type} {outcome : Except ε α} {value : α} :
    outcome.toOption = some value ↔ outcome = .ok value := by
  cases outcome <;> simp [Except.toOption]

theorem locate_of_isOpenable {path : FilePath} (openable : path.IsOpenable) (workspace : Workspace)
    (followLast : Bool) :
    workspace.locate path followLast =
      workspace.tree.follow followLast linkLimit (workspace.startOf path) path.segments := by
  rcases openable with ⟨nonempty, noZero, short⟩
  have notEmpty : path.text.isEmpty = false := by simpa [String.isEmpty_iff] using nonempty
  rw [locate, notEmpty, if_neg Bool.false_ne_true, if_neg (by simpa using noZero),
    if_neg (Nat.not_le.2 short)]

/-- A path that cannot be followed at all fails for a reason of its own. -/
theorem exists_cause_of_not_isOpenable {path : FilePath} (notOpenable : ¬path.IsOpenable) :
    ∃ cause, ∀ (workspace : Workspace) (followLast : Bool),
      workspace.locate path followLast = .error cause := by
  by_cases empty : path.text.isEmpty = true
  · exact ⟨.notFound, fun workspace followLast => by rw [locate, if_pos empty]⟩
  · by_cases zero : path.text.toList.contains '\x00' = true
    · exact ⟨.zeroInPath, fun workspace followLast => by rw [locate, if_neg empty, if_pos zero]⟩
    · have long : pathLimit ≤ path.text.utf8ByteSize := by
        rw [← Nat.not_lt]
        intro short
        exact notOpenable ⟨by simpa [String.isEmpty_iff] using empty, by simpa using zero, short⟩
      refine ⟨.nameTooLong, fun workspace followLast => ?_⟩
      rw [locate, if_neg empty, if_neg zero, if_pos long]

/-- A path that leads somewhere, or may only be missing, can be followed. -/
theorem isOpenable_of_locate {workspace : Workspace} {path : FilePath} {followLast : Bool}
    (nonempty : path.text ≠ "")
    (readable : ∀ cause, workspace.locate path followLast = .error cause → cause = .notFound) :
    path.IsOpenable := by
  have notEmpty : path.text.isEmpty = false := by simpa [String.isEmpty_iff] using nonempty
  refine ⟨nonempty, ?_, ?_⟩
  · intro zero
    have contained : path.text.toList.contains '\x00' = true := by simpa using zero
    have cause := readable .zeroInPath
    rw [locate, notEmpty, if_neg Bool.false_ne_true, if_pos contained] at cause
    cases cause rfl
  · rw [← Nat.not_le]
    intro long
    have cause := readable .nameTooLong
    rw [locate, notEmpty, if_neg Bool.false_ne_true, if_pos long] at cause
    split at cause
    · rename_i zero
      have zeroCause := readable .zeroInPath
      rw [locate, notEmpty, if_neg Bool.false_ne_true, if_pos zero] at zeroCause
      cases zeroCause rfl
    · cases cause rfl

theorem isOpenable_of_locate_eq_ok {workspace : Workspace} {path : FilePath}
    {followLast : Bool} {place : Location}
    (located : workspace.locate path followLast = .ok place) : path.IsOpenable := by
  have nonempty : path.text ≠ "" := by
    intro empty
    rw [locate, if_pos (by simp [empty])] at located
    cases located
  apply isOpenable_of_locate nonempty
  intro cause failed
  rw [located] at failed
  cases failed

/-- A path to a directory leads to it. -/
theorem exists_located_directory {workspace : Workspace} {path : FilePath}
    (isDirectory : workspace.isDirectory path = true) :
    ∃ directory, workspace.locate path true = .ok directory ∧
      workspace.tree.entry? directory = some .directory := by
  rw [Workspace.isDirectory] at isDirectory
  split at isDirectory
  · rename_i directory located
    exact ⟨directory, located, FileTree.isDirectory_iff.1 isDirectory⟩
  · cases isDirectory

/-- A path leads somewhere if its segments do, through links within the limit. -/
theorem locate_eq_ok_iff {workspace : Workspace} {path : FilePath} {place : Location} :
    workspace.locate path true = .ok place ↔
      path.IsOpenable ∧ ∃ used, used ≤ linkLimit ∧
        workspace.tree.Leads used (workspace.startOf path) path.segments place := by
  constructor
  · intro located
    have openable := isOpenable_of_locate_eq_ok located
    rw [locate_of_isOpenable openable] at located
    exact ⟨openable, leads_of_follow located⟩
  · rintro ⟨openable, used, bound, leads⟩
    rw [locate_of_isOpenable openable, follow_of_leads leads, if_pos bound]

/-- What is read at a path is the file to which it leads. -/
theorem read_eq_ok_iff {workspace : Workspace} {path : FilePath} {content : ByteArray} :
    workspace.read path = .ok content ↔
      ∃ place, workspace.locate path true = .ok place ∧
        workspace.tree.entry? place = some (.file content) := by
  rw [Workspace.read]
  rcases workspace.locate path true with cause | place
  · simp
  · rcases present : workspace.tree.entry? place with _ | (bytes | _ | target) <;> simp [present]

/-- A path whose last segment is taken as a name leads to what lies there by this name itself, also
where that is a link. -/
theorem locate_last {workspace : Workspace} {path : FilePath} {init : List String}
    {name : String} {used : Nat} {directory : Location} {entry : Entry}
    (openable : path.IsOpenable) (segments : path.segments = init ++ [name]) (step : IsStep name)
    (leads : workspace.tree.Leads used (workspace.startOf path) init directory)
    (bound : used ≤ linkLimit) (isDirectory : workspace.tree.entry? directory = some .directory)
    (present : workspace.tree.entry? (directory ++ [name]) = some entry) :
    workspace.locate path false = .ok (directory ++ [name]) := by
  rw [locate_of_isOpenable openable, segments,
    follow_append leads (Or.inl (List.cons_ne_nil _ _)), if_pos bound,
    follow_step isDirectory step, present]
  cases entry <;> simp

end Workspace

end Registrar
