import Registrar.FilePath
import Registrar.Source.File

/-!
# Module paths

The module that a source file holds is told by where the file lies below the root of the sources.
A file `lib.rs` or `main.rs` at the root is the root module, and `mod.rs` is the module of its
directory. A file has no module if it lies elsewhere, or if a segment may not name a module.
-/

namespace Registrar.ModulePath

/-- The names that components are, unless one of them is none. -/
def names? (components : List Component) : Option (List String) :=
  components.mapM fun
    | .name text => some text
    | _ => none

/-- The names of directories and the stem of the file, where its extension is that of sources. -/
def stems? (names : List String) : Option (List String) := do
  let file ← names.getLast?
  let (stem, extension) ← FilePath.cutAtExtension? file.toList
  if extension = ['r', 's'] then some (names.dropLast ++ [String.ofList stem]) else none

/-- The segments of the module that the given names stand for. -/
def withoutRootFile (names : List String) : List String :=
  if names = ["lib"] ∨ names = ["main"] ∨ names.getLast? = some "mod" then names.dropLast
  else names

/-- The segments of the module path of a file below the root. -/
def segments? (components : List Component) : Option (List String) := do
  let names ← names? components
  let stems ← stems? names
  let segments := withoutRootFile stems
  if segments.all fun segment => Source.isName segment.toList then some segments else none

/-- A module path that starts with the given one. -/
def extend (start : String) (segments : List String) : String :=
  start ++ String.join (segments.map fun segment => "::" ++ segment)

/-- The module path of a file below the given root of the sources. -/
def ofFile? (root file : FilePath) (start : String) : Option String := do
  let components ← file.componentsBelow? root
  let segments ← segments? components
  return extend start segments

end Registrar.ModulePath
