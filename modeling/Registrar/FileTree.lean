import Registrar.FileName
import Registrar.FilePath

/-!
# File trees

A file tree tells what lies at each location below its root: a file with its bytes, a directory, or
a link to a path. The root is a directory. A tree is well formed if nothing lies at two entries and
if everything lies in a directory; all that changes a tree here keeps it so.

What a tree holds can be read, and it holds no devices, pipes or sockets. Its names are texts unless
another type of names is given.
-/

namespace Registrar

/-- The names that lead from the root to something. -/
abbrev Location (Name : Type := String) := List Name

/-- What may lie at a location. -/
inductive Entry
  | file (content : ByteArray)
  | directory
  | link (target : FilePath)

/-- Whether two entries are the same, byte for byte. -/
instance : DecidableEq Entry
  | .file left, .file right =>
    match ByteArray.instDecidableEq left right with
    | isTrue same => isTrue (congrArg Entry.file same)
    | isFalse differ => isFalse fun same => differ (Entry.file.inj same)
  | .directory, .directory => isTrue rfl
  | .link left, .link right =>
    match decEq left right with
    | isTrue same => isTrue (congrArg Entry.link same)
    | isFalse differ => isFalse fun same => differ (Entry.link.inj same)
  | .file _, .directory | .file _, .link _ | .directory, .file _ | .directory, .link _
  | .link _, .file _ | .link _, .directory => isFalse nofun

/-- Whether an entry is a file. -/
def Entry.isFile : Entry → Bool
  | .file _ => true
  | _ => false

/-- What lies at the locations below a root. -/
structure FileTree (Name : Type := String) where
  entries : List (Location Name × Entry)

namespace FileTree

/-- The tree whose root is empty. -/
def empty : FileTree := ⟨[]⟩

section Names

variable {Name : Type} [DecidableEq Name]

/-- What lies at a location. -/
def entry? (tree : FileTree Name) (location : Location Name) : Option Entry :=
  if location = [] then some .directory else tree.entries.lookup location

/-- Whether a directory lies at a location. -/
def isDirectory (tree : FileTree Name) (location : Location Name) : Bool :=
  tree.entry? location == some .directory

/-- Whether everything has a location of its own and lies in a directory. -/
def WellFormed (tree : FileTree Name) : Prop :=
  (tree.entries.map Prod.fst).Nodup ∧
    ∀ entry ∈ tree.entries, entry.1 ≠ [] ∧ tree.entry? entry.1.dropLast = some .directory

/-- The tree without what lies at a location. -/
def remove (tree : FileTree Name) (location : Location Name) : FileTree Name :=
  ⟨tree.entries.filter fun entry => entry.1 ≠ location⟩

/-- The tree without what lies at a location or below it. -/
def removeAll (tree : FileTree Name) (location : Location Name) : FileTree Name :=
  ⟨tree.entries.filter fun entry => !location.isPrefixOf entry.1⟩

/-- The tree with an entry at a location, in place of what lies there. -/
def put (tree : FileTree Name) (location : Location Name) (entry : Entry) : FileTree Name :=
  ⟨(tree.remove location).entries ++ [(location, entry)]⟩

/-- The tree in which what lies at one location lies at another one, in place of what lies
there. -/
def move (tree : FileTree Name) (source target : Location Name) : FileTree Name :=
  match tree.entry? source with
  | some entry => (tree.remove source).put target entry
  | none => tree

end Names

/-- A name that nothing in the tree has. It is longer than any name in the tree. -/
def unusedName (tree : FileTree) : String :=
  let lengths := tree.entries.flatMap fun entry => entry.1.map String.length
  String.ofList (".tmp".toList ++ List.replicate (lengths.foldl max 0) 'x')

end FileTree

end Registrar
