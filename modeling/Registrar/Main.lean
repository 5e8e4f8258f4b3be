import Std.Time.DateTime.Timestamp
import Registrar.Program

/-!
# The command

The program is run on a part of the file system: what lies below the working directory, and what
the arguments and the environment name. What it changes is written back at its end.
-/

namespace Registrar.Command

/-- The variables of the environment that are read. -/
def variableNames : List String :=
  ValueOption.all.filterMap ValueOption.environmentKey? ++
    ["LOG_FORMAT", "LOG_OUTPUT", "LOG_DIR", "NO_COLOR", "OUT_DIR", "RUST_LOG",
      SourceDate.variableName]

/-- The variables that are set. -/
def readEnvironment : IO Environment := do
  let mut bindings := []
  for name in variableNames do
    if let some value ← IO.getEnv name then
      bindings := bindings ++ [(name, value)]
  return ⟨bindings⟩

/-- The reading of the clock. -/
def readClock : IO Instant := do
  let nanoseconds := (← Std.Time.Timestamp.now).toNanosecondsSinceUnixEpoch.val
  return ⟨nanoseconds / Instant.nanosecondsOfSecond,
    (nanoseconds % Instant.nanosecondsOfSecond).toNat⟩

/-- The location to which an absolute path leads where there are no links. -/
def locationOf (path : String) : Location :=
  (FilePath.mk path).segments.filter fun name => !name.isEmpty

/-- The absolute path of a location. -/
def pathOf (location : Location) : String := "/" ++ "/".intercalate location

/-- The tree with directories at a location and above it. -/
def withDirectories (tree : FileTree) (location : Location) : FileTree :=
  let above := (List.range location.length).map fun count => location.take (count + 1)
  above.foldl (fun tree location =>
    if (tree.entry? location).isSome then tree else tree.put location .directory) tree

/-- The entries at a location and below it. Directories in which nothing is sought are entered only
at the top. -/
partial def readEntries (isTop : Bool) (location : Location) : IO (List (Location × Entry)) := do
  let entry : IO.FS.DirEntry := ⟨"/", "/".intercalate location⟩
  match (← entry.path.symlinkMetadata).type with
  | .dir =>
    let isSkipped := !isTop && (location.getLast?.map isSkippedDirectory).getD false
    if isSkipped then return [(location, .directory)]
    let mut entries := [(location, Entry.directory)]
    for child in ← entry.path.readDir do
      entries := entries ++ (← readEntries false (location ++ [child.fileName]))
    return entries
  | .file => return [(location, .file (← IO.FS.readBinFile entry.path))]
  | .symlink =>
    try
      return [(location, .link ⟨(← IO.FS.realPath entry.path).toString⟩)]
    catch _ => return [(location, .link ⟨""⟩)]
  | .other => return []

/-- The tree with what lies at a path, if something does. -/
def addPath (tree : FileTree) (path : String) : IO FileTree := do
  try
    let location := locationOf (← IO.FS.realPath path).toString
    if (tree.entry? location).isSome then return tree
    let found ← readEntries true location
    return ⟨(withDirectories tree location.dropLast).entries ++ found⟩
  catch _ => return tree

/-- The paths that arguments and variables may name. -/
def namedPaths (arguments : List String) (environment : Environment) : List String :=
  (arguments.map fun argument =>
    match argument.splitOn "=" with
    | [_, value] => value
    | _ => argument) ++ environment.bindings.map Prod.snd

/-- The part of the file system that a run is about. -/
def readWorkspace (arguments : List String) (environment : Environment) : IO Workspace := do
  let directory := locationOf (← IO.currentDir).toString
  let found ← readEntries true directory
  let mut tree : FileTree := ⟨(withDirectories .empty directory.dropLast).entries ++ found⟩
  for path in namedPaths arguments environment do
    unless path.isEmpty do tree ← addPath tree path
  return ⟨tree, directory⟩

/-- Makes a path lead to a file with the given content, in one step. -/
def writeFile (location : Location) (content : ByteArray) : IO Unit := do
  IO.FS.createDirAll (pathOf location.dropLast)
  let temporary := pathOf (location.dropLast ++ [".tmp" ++ location.getLast?.getD ""])
  IO.FS.writeBinFile temporary content
  IO.FS.rename temporary (pathOf location)

/-- Writes what is new or different in the second of two trees. -/
def writeChanges (before after : FileTree) : IO Unit := do
  for (location, entry) in after.entries do
    unless before.entry? location = some entry do
      match entry with
      | .file content => writeFile location content
      | .directory => IO.FS.createDirAll (pathOf location)
      | .link _ => pure ()

/-- Runs the program on the file system, and tells its exit code. -/
def run (arguments : List String) : IO UInt32 := do
  let started ← IO.monoMsNow
  let environment ← readEnvironment
  let clock ← readClock
  let workspace ← readWorkspace arguments environment
  let result := Program.run workspace ⟨arguments, environment, clock, .never⟩
  writeChanges workspace.tree result.workspace.tree
  IO.eprint result.standardError
  IO.print (result.standardOutput ((← IO.monoMsNow) - started))
  return UInt32.ofNat result.ending.exitCode

end Registrar.Command

/-- Runs the program with the arguments of the command line. -/
def main (arguments : List String) : IO UInt32 := Registrar.Command.run arguments
