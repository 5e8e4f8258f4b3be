import Registrar.FileError
import Registrar.FileTree

/-!
# Workspaces

A workspace is a file tree with the directory from which paths lead that do not start at the root.
A path is followed segment by segment and through links. It has to lead through directories, also
where it only ends in a slash.
-/

namespace Registrar

/-- A file tree with the directory that a run works in. -/
structure Workspace where
  tree : FileTree
  directory : Location

namespace FilePath

/-- The texts between the slashes of a path. -/
def segments (path : FilePath) : List String :=
  (path.text.toList.splitOn '/').map String.ofList

end FilePath

namespace FileTree

/-- The greatest number of bytes in the name of a file. -/
def nameLimit : Nat := 255

/-- The location to which segments lead from a directory. A link at the end is followed only if
that is asked for; where a link is followed, `afterLink` takes the directory from which it leads
and the segments that are left. -/
def followWith (tree : FileTree) (followLast : Bool)
    (afterLink : Location → List String → Except FileError Location) (start : Location) :
    List String → Except FileError Location
  | [] => .ok start
  | segment :: rest =>
    if !tree.isDirectory start then .error .notADirectory
    else if segment = "" ∨ segment = "." then tree.followWith followLast afterLink start rest
    else if segment = ".." then tree.followWith followLast afterLink start.dropLast rest
    else if nameLimit < segment.utf8ByteSize then .error .nameTooLong
    else match tree.entry? (start ++ [segment]) with
      | none => .error .notFound
      | some (.link target) =>
        if rest.isEmpty && !followLast then .ok (start ++ [segment])
        else afterLink (if target.isAbsolute then [] else start) (target.segments ++ rest)
      | some _ => tree.followWith followLast afterLink (start ++ [segment]) rest

/-- The location to which segments lead from a directory, through at most the given number of
links. -/
def follow (tree : FileTree) (followLast : Bool) :
    Nat → Location → List String → Except FileError Location
  | 0 => tree.followWith followLast fun _ _ => .error .tooManyLinks
  | links + 1 => tree.followWith followLast (tree.follow followLast links)

end FileTree

namespace Workspace

/-- The number of links that a path may lead through. -/
def linkLimit : Nat := 40

/-- The number of bytes that a path has to stay below. -/
def pathLimit : Nat := 4096

/-- The directory from which a path leads. -/
def startOf (workspace : Workspace) (path : FilePath) : Location :=
  if path.isAbsolute then [] else workspace.directory

/-- The location to which a path leads. A link at its end is followed only if that is asked for. -/
def locate (workspace : Workspace) (path : FilePath) (followLast : Bool) :
    Except FileError Location :=
  if path.text.isEmpty then .error .notFound
  else if path.text.toList.contains '\x00' then .error .zeroInPath
  else if pathLimit ≤ path.text.utf8ByteSize then .error .nameTooLong
  else workspace.tree.follow followLast linkLimit (workspace.startOf path) path.segments

/-- Whether a path leads to anything. -/
def pathExists (workspace : Workspace) (path : FilePath) : Bool :=
  match workspace.locate path true with
  | .ok _ => true
  | .error _ => false

/-- Whether a path leads to a directory. -/
def isDirectory (workspace : Workspace) (path : FilePath) : Bool :=
  match workspace.locate path true with
  | .ok location => workspace.tree.isDirectory location
  | .error _ => false

/-- Whether a path leads to a regular file. -/
def isFile (workspace : Workspace) (path : FilePath) : Bool :=
  match workspace.locate path true with
  | .ok location => (workspace.tree.entry? location).any Entry.isFile
  | .error _ => false

/-- The bytes of the file to which a path leads. -/
def read (workspace : Workspace) (path : FilePath) : Except FileError ByteArray :=
  match workspace.locate path true with
  | .error cause => .error cause
  | .ok location =>
    match workspace.tree.entry? location with
    | some (.file content) => .ok content
    | some .directory => .error .isADirectory
    | _ => .error .notFound

/-- The text of the file to which a path leads. -/
def readText (workspace : Workspace) (path : FilePath) : Except FileError String :=
  match workspace.read path with
  | .error cause => .error cause
  | .ok content =>
    match String.fromUTF8? content with
    | some text => .ok text
    | none => .error .notText

/-- The tree in which the given components lead from a directory to a directory, as far as that
comes about, and the location of that directory. Directories that are missing are made one after
the other, unless there is a reason not to make one at its location; those made before stay. -/
def makeDirectoriesFrom (reason? : Location → Option FileError) (tree : FileTree)
    (start : Location) : List Component → FileTree × Except FileError Location
  | [] => (tree, .ok start)
  | .root :: rest => makeDirectoriesFrom reason? tree [] rest
  | .current :: rest => makeDirectoriesFrom reason? tree start rest
  | .parent :: rest => makeDirectoriesFrom reason? tree start.dropLast rest
  | .name text :: rest =>
    match tree.follow true linkLimit start [text] with
    | .ok location =>
      if tree.isDirectory location then makeDirectoriesFrom reason? tree location rest
      else (tree, .error (if rest.isEmpty then .alreadyExists else .notADirectory))
    | .error .notFound =>
      if (tree.entry? (start ++ [text])).isSome then (tree, .error .alreadyExists)
      else
        match reason? (start ++ [text]) with
        | some cause => (tree, .error cause)
        | none =>
          makeDirectoriesFrom reason? (tree.put (start ++ [text]) .directory) (start ++ [text]) rest
    | .error cause => (tree, .error cause)

/-- The tree in which a path leads to a directory, as far as that comes about, and the location of
that directory. -/
def makeDirectoriesUnless (workspace : Workspace) (reason? : Location → Option FileError)
    (path : FilePath) : FileTree × Except FileError Location :=
  makeDirectoriesFrom reason? workspace.tree (workspace.startOf path) path.components

/-- The tree in which a path leads to a directory, and the location of that directory. -/
def makeDirectories (workspace : Workspace) (path : FilePath) :
    Except FileError (FileTree × Location) :=
  let (tree, made) := workspace.makeDirectoriesUnless (fun _ => none) path
  made.map fun location => (tree, location)

/-- The location at which a path puts a file: its last segment in the directory to which the other
ones lead. A path that ends in a slash puts no file anywhere. -/
def placeOf (workspace : Workspace) (path : FilePath) : Except FileError Location :=
  let kept := (path.segments.reverse.dropWhile String.isEmpty).reverse
  match kept.getLast? with
  | none => .error .notFound
  | some name =>
    match workspace.tree.follow true linkLimit (workspace.startOf path) kept.dropLast with
    | .error cause => .error cause
    | .ok directory =>
      if !workspace.tree.isDirectory directory then .error .notADirectory
      else if FileTree.nameLimit < name.utf8ByteSize then .error .nameTooLong
      else if name = "." ∨ name = ".." ∨ kept.length ≠ path.segments.length then
        .error .notADirectory
      else .ok (directory ++ [name])

end Workspace

end Registrar
