import Registrar.FileName

/-!
# File paths

A file path is a text whose segments stand between slashes. What it names is told by its
components: repeated slashes and inner segments `.` add none, a leading slash is the root and a
leading `.` the current directory. Two paths are the same if their components are; the text is kept
because it is what is shown. Paths whose bytes encode no text are left out: what a configuration
names is a text.
-/

namespace Registrar

/-- A step of a file path. -/
inductive Component
  | root
  | current
  | parent
  | name (text : String)
  deriving DecidableEq, Repr

/-- A path, as it is written. -/
structure FilePath where
  text : String
  deriving DecidableEq, Repr, Inhabited

namespace FilePath

/-- The component that a segment after the first adds, if it adds one. -/
def componentOfSegment? (segment : List Char) : Option Component :=
  match segment with
  | [] => none
  | ['.'] => none
  | ['.', '.'] => some .parent
  | _ => some (.name (String.ofList segment))

/-- The components of a text that was split at its slashes. -/
def componentsOfSegments : List (List Char) → List Component
  | [] => []
  | [[]] => []
  | [] :: rest => .root :: rest.filterMap componentOfSegment?
  | ['.'] :: rest => .current :: rest.filterMap componentOfSegment?
  | segments => segments.filterMap componentOfSegment?

/-- What a path leads through, step by step. -/
def components (path : FilePath) : List Component :=
  componentsOfSegments (path.text.toList.splitOn '/')

/-- The bytes of a path. -/
def bytes (path : FilePath) : List UInt8 :=
  Text.bytes path.text

/-- Whether a path starts at the root. -/
def isAbsolute (path : FilePath) : Bool :=
  path.text.toList.head? == some '/'

/-- A path below another one. An absolute path stays as it is. -/
def join (base path : FilePath) : FilePath :=
  if path.isAbsolute then path
  else if base.text.isEmpty || base.text.toList.getLast? == some '/' then ⟨base.text ++ path.text⟩
  else ⟨base.text ++ "/" ++ path.text⟩

/-- The components that follow those of `directory`, where the path starts with them. -/
def componentsBelow? (path directory : FilePath) : Option (List Component) :=
  if directory.components.isPrefixOf path.components then
    some (path.components.drop directory.components.length)
  else none

/-- Whether a path lies at or below a directory. -/
def isUnder (path directory : FilePath) : Bool :=
  directory.components.isPrefixOf path.components

/-- The name that a path ends in, if it ends in one. -/
def name? (path : FilePath) : Option String :=
  match path.components.getLast? with
  | some (.name text) => some text
  | _ => none

/-- A file name, cut at its last point; nothing where there is no point after the first
character. -/
def cutAtExtension? (name : List Char) : Option (List Char × List Char) :=
  match name.reverse.dropWhile (· ≠ '.') with
  | [] => none
  | _ :: stem =>
    if stem.isEmpty then none
    else some (stem.reverse, (name.reverse.takeWhile (· ≠ '.')).reverse)

/-- What follows the last point of the file name. -/
def extension? (path : FilePath) : Option String := do
  let name ← path.name?
  let (_, extension) ← cutAtExtension? name.toList
  return String.ofList extension

/-- Whether a segment adds no component where it is not the first. -/
def isIdle (segment : List Char) : Bool :=
  segment == [] || segment == ['.']

/-- Drops the segments at the end that add no component. -/
def withoutIdleEnd : List (List Char) → List (List Char)
  | [] => []
  | first :: rest => first :: (rest.reverse.dropWhile isIdle).reverse

/-- The text in which slashes stand between segments. A single empty segment is the root. -/
def textOfSegments : List (List Char) → List Char
  | [] => []
  | [[]] => ['/']
  | segments => ['/'].intercalate segments

/-- The path without its last component; nothing where it has none or is the root. -/
def parent? (path : FilePath) : Option FilePath :=
  match path.components with
  | [] => none
  | [.root] => none
  | _ =>
    let segments := withoutIdleEnd (withoutIdleEnd (path.text.toList.splitOn '/')).dropLast
    some ⟨String.ofList (textOfSegments segments)⟩

end FilePath

end Registrar
