import Registrar.Selection
import Registrar.Workspace

/-!
# Discovery of source files

All files below the base directory are found by a walk that takes what lies in a directory in the
order of the bytes of the names, and goes through a directory where its name stands. Links are not
followed, and directories that are hidden or hold build results are left out with everything below
them. The base directory itself is never left out. A directory whose path is too long to be opened
is passed by.
-/

namespace Registrar

/-- A file that was found: the path that leads to it, and its path below the base directory. -/
structure FoundFile where
  path : FilePath
  relative : FilePath
  deriving DecidableEq, Repr

/-- The bytes of the path that leads from the one with the given bytes on to a name. -/
def FileName.joinTo {Name : Type} [FileName Name] (path : List UInt8) (name : Name) : List UInt8 :=
  if path.isEmpty || path.getLast? == some Glob.slash then path ++ bytes name
  else path ++ Glob.slash :: bytes name

/-- The bytes of the path that leads from the one with the given bytes on through names. -/
def Location.joinTo {Name : Type} [FileName Name] (path : List UInt8) (names : Location Name) :
    List UInt8 :=
  names.foldl FileName.joinTo path

/-- Whether a directory of the given name is left out. One whose name is no text is not. -/
def isSkippedDirectory {Name : Type} [FileName Name] (name : Name) : Bool :=
  match FileName.text? name with
  | some text => text.toList.head? == some '.' || text == "target"
  | none => false

/-- What a walk comes upon: a file, or a directory that cannot be opened. -/
inductive Visit (Name : Type := String)
  | file (names : Location Name)
  | unreadable (names : Location Name) (cause : FileError)
  deriving DecidableEq, Repr

namespace Visit

variable {Name : Type}

/-- What is come upon below a directory, seen from where the directory lies. -/
def below (name : Name) : Visit Name → Visit Name
  | file names => file (name :: names)
  | unreadable names cause => unreadable (name :: names) cause

/-- The names that lead to the file that was come upon, if it is one. -/
def file? : Visit Name → Option (Location Name)
  | file names => some names
  | unreadable _ _ => none

end Visit

namespace FileTree

variable {Name : Type} [DecidableEq Name] [FileName Name]

/-- What something is called in a directory, and what it is, if it lies there. -/
def child? (directory : Location Name) (entry : Location Name × Entry) : Option (Name × Entry) :=
  if entry.1.dropLast = directory then entry.1.getLast?.map fun name => (name, entry.2) else none

/-- Puts something in front of all that has a later name. -/
def insertByName (child : Name × Entry) : List (Name × Entry) → List (Name × Entry)
  | [] => [child]
  | first :: others =>
    if FileName.bytes child.1 ≤ FileName.bytes first.1 then child :: first :: others
    else first :: insertByName child others

/-- What lies in a directory, in the order of the names. -/
def listing (tree : FileTree Name) (directory : Location Name) : List (Name × Entry) :=
  (tree.entries.filterMap (child? directory)).foldr insertByName []

/-- What a walk comes upon at something in a directory, where it comes upon `below` further down. -/
def visitsAt (below : List (Visit Name)) (child : Name × Entry) : List (Visit Name) :=
  match child.2 with
  | .file _ => [.file [child.1]]
  | .directory => if isSkippedDirectory child.1 then [] else below.map (.below child.1)
  | .link _ => []

/-- What a walk comes upon below a directory that its path leads to, through at most the given
number of directories. Each directory is gone through where it stands in the order of the names. -/
def visitsWithin (tree : FileTree Name) : Nat → List UInt8 → Location Name → List (Visit Name)
  | 0, _, _ => []
  | depth + 1, path, directory =>
    if Workspace.pathLimit ≤ path.length then [.unreadable [] .nameTooLong]
    else (tree.listing directory).flatMap fun child =>
      visitsAt (tree.visitsWithin depth (FileName.joinTo path child.1) (directory ++ [child.1]))
        child

/-- The length of the longest location. -/
def height (tree : FileTree Name) : Nat :=
  (tree.entries.map fun entry => entry.1.length).foldl max 0

/-- What a walk comes upon below a directory that a path with the given bytes leads to. -/
def visitsBelow (tree : FileTree Name) (path : List UInt8) (directory : Location Name) :
    List (Visit Name) :=
  tree.visitsWithin (tree.height + 1) path directory

/-- The names that lead from a directory to the files that a walk comes upon below it. -/
def filesBelow (tree : FileTree Name) (path : List UInt8) (directory : Location Name) :
    List (Location Name) :=
  (tree.visitsBelow path directory).filterMap Visit.file?

end FileTree

/-- The file to which names lead below a base directory. -/
def FoundFile.below (base : FilePath) (names : Location) : FoundFile where
  path := names.foldl (fun path name => path.join ⟨name⟩) base
  relative := ⟨"/".intercalate names⟩

/-- The files that a walk from a base directory came upon. -/
def FoundFile.ofVisits (base : FilePath) (visits : List Visit) : List FoundFile :=
  (visits.filterMap Visit.file?).map (below base)

namespace Workspace

/-- What a walk from a base directory comes upon. A base that is a file is found itself, below
itself; a link is no file. -/
def visits (workspace : Workspace) (base : FilePath) : Except FileError (List Visit) := do
  let place ← workspace.locate base false
  match workspace.tree.entry? place with
  | some (.file _) => return [.file []]
  | _ =>
    let directory ← workspace.locate base true
    if workspace.tree.isDirectory directory then
      return workspace.tree.visitsBelow base.bytes directory
    else return []

/-- The files that a walk from a base directory comes upon. -/
def findFiles (workspace : Workspace) (base : FilePath) : Except FileError (List FoundFile) :=
  (workspace.visits base).map (FoundFile.ofVisits base)

end Workspace

/-- The files that a run reads, and the numbers of those that it leaves out. -/
structure Discovery (File : Type := FoundFile) where
  files : List File
  excluded : Nat
  priorOutputs : Nat
  deriving DecidableEq, Repr

/-- What is done with files that were found and are judged as given. -/
def Discovery.ofJudged {File : Type} (judge : File → Selection) (found : List File) :
    Discovery File where
  files := found.filter fun file => judge file == .selected
  excluded := (found.filter fun file => judge file == .excluded).length
  priorOutputs := (found.filter fun file => judge file == .priorOutput).length

namespace Selector

/-- The files among those that were found that are judged in the given way. -/
def filesSelectedAs (selector : Selector) (selection : Selection) (found : List FoundFile) :
    List FoundFile :=
  found.filter fun file => selector.select file.relative == selection

/-- What a run does with the files that were found. -/
def discoveryOf (selector : Selector) (found : List FoundFile) : Discovery :=
  .ofJudged (fun file => selector.select file.relative) found

/-- The files that are found below a base directory. -/
def findFiles (workspace : Workspace) (base : FilePath) : Except Failure (List FoundFile) :=
  (workspace.findFiles base).mapError (.walk base)

/-- What a run does with the files below a base directory. -/
def discover (selector : Selector) (workspace : Workspace) (base : FilePath) :
    Except Failure Discovery :=
  (findFiles workspace base).map selector.discoveryOf

/-- What is discovered below a directory that a path with the given bytes leads to. Each file is
told by the names that lead to it. -/
def discoverBelow {Name : Type} [DecidableEq Name] [FileName Name] (selector : Selector)
    (tree : FileTree Name) (path : List UInt8) (directory : Location Name) :
    Discovery (Location Name) :=
  .ofJudged (fun names => selector.judge names.view) (tree.filesBelow path directory)

end Selector

end Registrar
