import Registrar.Failure
import Registrar.FileTree
import Registrar.Glob.Matching

/-!
# Selection of source files

A file is judged by its path below the base directory. What a run has written is never a source:
the output file, files below the output directory and files whose name says that they are generated.
Any other file is selected if some source set includes it and does not exclude it.
-/

namespace Registrar

/-- A pair of pattern lists. The texts are patterns for paths below the base directory. -/
structure SourceSet where
  includes : List String
  excludes : List String
  deriving DecidableEq, Repr

/-- The source set that stands where none is given. -/
def SourceSet.standard : SourceSet := ⟨["src/**/*.rs"], []⟩

/-- The end of the names of files that are generated. -/
def generatedSuffix : String := ".g.rs"

/-- What becomes of a path. -/
inductive Selection
  | selected | notIncluded | excluded | priorOutput
  deriving DecidableEq, Repr

/-- What a path is judged by: its components, as far as they are texts, and its bytes. -/
structure PathView where
  components : List (Option Component)
  bytes : List UInt8

/-- What a path is judged by. -/
def FilePath.view (path : FilePath) : PathView :=
  ⟨path.components.map some, path.bytes⟩

/-- What the path that is made of names is judged by. -/
def Location.view {Name : Type} [FileName Name] (names : Location Name) : PathView where
  components := names.map fun name => (FileName.text? name).map .name
  bytes := [Glob.slash].intercalate (names.map FileName.bytes)

/-- What judges paths. The output directory and the output file are told by their components
below the base directory and are missing where they lie outside it. -/
structure Selector where
  sets : List (List Glob × List Glob)
  outputDirectory : Option (List Component)
  outputFile : Option (List Component)

namespace Selector

/-- The patterns that are written in texts. -/
def readPatterns (texts : List String) : Except Failure (List Glob) :=
  texts.mapM fun text => (Glob.ofText text).mapError (.pattern text)

/-- The patterns of a source set: those for inclusion and those for exclusion. -/
def readSet (set : SourceSet) : Except Failure (List Glob × List Glob) := do
  return (← readPatterns set.includes, ← readPatterns set.excludes)

/-- Whether components lead nowhere. -/
def staysInPlace (components : List Component) : Bool :=
  components == [] || components == [.current]

/-- The selector for source sets. An output directory that is the base directory itself holds no
prior output by that. -/
def ofSets (sets : List SourceSet) (outputDirectory outputFile : Option (List Component)) :
    Except Failure Selector := do
  return {
    sets := ← sets.mapM readSet
    outputDirectory := outputDirectory.filter fun components => !staysInPlace components
    outputFile }

/-- Whether a path is the output file or ends in the name of a generated file. -/
def seesGeneratedName (selector : Selector) (view : PathView) : Bool :=
  selector.outputFile.map (List.map some) == some view.components ||
    match view.components.getLast? with
    | some (some (.name name)) => generatedSuffix.toList.isSuffixOf name.toList
    | _ => false

/-- Whether a path leads into the output directory. -/
def seesOutputDirectory (selector : Selector) (view : PathView) : Bool :=
  match selector.outputDirectory with
  | some directory => (directory.map some).isPrefixOf view.components
  | none => false

/-- Whether a path is one that a run writes, by what it is judged by. -/
def seesPriorOutput (selector : Selector) (view : PathView) : Bool :=
  selector.seesGeneratedName view || selector.seesOutputDirectory view

/-- Whether some pattern matches a path. -/
def accepts (patterns : List Glob) (view : PathView) : Bool :=
  patterns.any fun pattern => pattern.accepts view.bytes

/-- What becomes of a path, by what it is judged by. -/
def judge (selector : Selector) (view : PathView) : Selection :=
  if selector.seesPriorOutput view then .priorOutput
  else
    let including := selector.sets.filter fun (includes, _) => accepts includes view
    if including.any fun (_, excludes) => !accepts excludes view then .selected
    else if including.isEmpty then .notIncluded
    else .excluded

/-- Whether a path is the output file or names a generated file. -/
def hasGeneratedName (selector : Selector) (path : FilePath) : Bool :=
  selector.seesGeneratedName path.view

/-- Whether a path lies in the output directory or below it. -/
def isUnderOutputDirectory (selector : Selector) (path : FilePath) : Bool :=
  selector.seesOutputDirectory path.view

/-- Whether a path is one that a run writes. -/
def isPriorOutput (selector : Selector) (path : FilePath) : Bool :=
  selector.seesPriorOutput path.view

/-- What becomes of a path. -/
def select (selector : Selector) (path : FilePath) : Selection :=
  selector.judge path.view

end Selector

end Registrar
