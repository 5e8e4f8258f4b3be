import Registrar.Config.Options
import Registrar.Environment

/-!
# The command line

Options have long names; those that take a value take it after an equals sign or as the next
argument. An option that the command line does not give is looked for in the environment. A value
is looked at once the next option is met, so of two faults the one that is met first counts.
-/

namespace Registrar

/-- The options that take a value. -/
inductive ValueOption
  | config | baseDirectory | sourceRoot | includes | excludes | outputDirectory | outputFile
  | codecName | mapType | cratePrefix
  deriving DecidableEq, Repr

namespace ValueOption

/-- Every option that takes a value. -/
def all : List ValueOption :=
  [config, baseDirectory, sourceRoot, includes, excludes, outputDirectory, outputFile, codecName,
    mapType, cratePrefix]

/-- The name of an option on the command line. -/
def longName : ValueOption → String
  | config => "config"
  | baseDirectory => "base-dir"
  | sourceRoot => "source-root"
  | includes => "include"
  | excludes => "exclude"
  | outputDirectory => "output-dir"
  | outputFile => "output-file"
  | codecName => "codec-name"
  | mapType => "map-type"
  | cratePrefix => "crate-prefix"

/-- The variable that gives an option, if one does. -/
def environmentKey? : ValueOption → Option String
  | config => none
  | baseDirectory => some "CODEC_REGISTRY_BASE_DIR"
  | sourceRoot => some "CODEC_REGISTRY_SOURCE_ROOT"
  | includes => some "CODEC_REGISTRY_INCLUDE"
  | excludes => some "CODEC_REGISTRY_EXCLUDE"
  | outputDirectory => some "CODEC_REGISTRY_OUTPUT_DIR"
  | outputFile => some "CODEC_REGISTRY_OUTPUT_FILE"
  | codecName => some "CODEC_REGISTRY_CODEC_NAME"
  | mapType => some "CODEC_REGISTRY_MAP_TYPE"
  | cratePrefix => some "CODEC_REGISTRY_CRATE_PREFIX"

/-- Whether an option may be given more than once. Its values are lists with commas. -/
def isList : ValueOption → Bool
  | includes | excludes => true
  | _ => false

/-- Whether an option takes a path, which may not be empty. -/
def isPath : ValueOption → Bool
  | config | baseDirectory | sourceRoot | outputDirectory => true
  | _ => false

end ValueOption

/-- The options that take no value. -/
inductive Flag
  | check | dryRun | reportJson
  deriving DecidableEq, Repr

namespace Flag

/-- Every flag. -/
def all : List Flag := [check, dryRun, reportJson]

/-- The name of an option on the command line. -/
def longName : Flag → String
  | check => "check"
  | dryRun => "dry-run"
  | reportJson => "report-json"

end Flag

/-- Why a command line starts no run. -/
inductive UsageStop
  | unknownArgument | argumentConflict | invalidValue | tooManyValues
  | showHelp | showVersion
  deriving DecidableEq, Repr

namespace CommandLine

/-- A command line that is being read. The last option may wait for its value, or have one that
was not looked at. -/
structure Draft where
  values : List (ValueOption × List String)
  flags : List Flag
  pending : Option (ValueOption × Option String)
  deriving Repr

/-- Nothing was read. -/
def Draft.empty : Draft := ⟨[], [], none⟩

namespace Draft

/-- The values of an option, if it was given. -/
def valuesOf? (draft : Draft) (option : ValueOption) : Option (List String) :=
  draft.values.lookup option

/-- Takes in a value of an option. -/
def take (draft : Draft) (option : ValueOption) (value : String) : Except UsageStop Draft :=
  let settled := { draft with pending := none }
  if option.isList then
    let parts := (value.toList.splitOn ',').map String.ofList
    let others := draft.values.filter fun given => given.1 ≠ option
    .ok { settled with
      values := others ++ [(option, (draft.valuesOf? option).getD [] ++ parts)] }
  else if (draft.valuesOf? option).isSome then .error .argumentConflict
  else if option.isPath && value.isEmpty then .error .invalidValue
  else .ok { settled with values := draft.values ++ [(option, [value])] }

/-- Takes in the value of the last option, which has to be there. -/
def settle (draft : Draft) : Except UsageStop Draft :=
  match draft.pending with
  | none => .ok draft
  | some (_, none) => .error .invalidValue
  | some (option, some value) => draft.take option value

/-- Takes in an option without a value. -/
def raise (draft : Draft) (flag : Flag) : Except UsageStop Draft := do
  let draft ← draft.settle
  if draft.flags.contains flag then .error .argumentConflict
  else .ok { draft with flags := draft.flags ++ [flag] }

/-- Takes in an option of the given name, whose value may stand behind an equals sign. -/
def readLong (draft : Draft) (name : String) (value : Option String) : Except UsageStop Draft :=
  match ValueOption.all.find? fun option => option.longName = name with
  | some option => do
    let draft ← draft.settle
    match value with
    | some value => draft.take option value
    | none => .ok { draft with pending := some (option, none) }
  | none =>
    match Flag.all.find? fun flag => flag.longName = name with
    | some flag => if value.isSome then .error .tooManyValues else draft.raise flag
    | none =>
      if name = "help" ∨ name = "version" then
        if value.isSome then .error .tooManyValues
        else do
          let _ ← draft.settle
          .error (if name = "help" then .showHelp else .showVersion)
      else .error .unknownArgument

/-- Takes in letters behind a single hyphen. -/
def readShort (draft : Draft) (letter : Char) : Except UsageStop Draft := do
  if letter = 'h' then
    let _ ← draft.settle
    .error .showHelp
  else if letter = 'V' then
    let _ ← draft.settle
    .error .showVersion
  else .error .unknownArgument

/-- Takes in an argument that is no option. -/
def readValue (draft : Draft) (argument : String) : Except UsageStop Draft :=
  match draft.pending with
  | some (option, none) => .ok { draft with pending := some (option, some argument) }
  | _ => .error .unknownArgument

/-- Takes in arguments. After two hyphens that stand alone none may follow. -/
def readAll (draft : Draft) : List String → Except UsageStop Draft
  | [] => draft.settle
  | argument :: rest =>
    match argument.toList with
    | ['-', '-'] => if rest.isEmpty then draft.settle else .error .unknownArgument
    | '-' :: '-' :: text => do
      let name := String.ofList (text.takeWhile (· ≠ '='))
      let value := match text.dropWhile (· ≠ '=') with
        | [] => none
        | _ :: value => some (String.ofList value)
      readAll (← draft.readLong name value) rest
    | '-' :: letter :: _ => do readAll (← draft.readShort letter) rest
    | _ => do readAll (← draft.readValue argument) rest

/-- Takes in the options that an environment gives and the command line does not. -/
def readEnvironment (draft : Draft) (environment : Environment) : Except UsageStop Draft :=
  ValueOption.all.foldlM (fun draft option =>
    match option.environmentKey?.bind environment.get? with
    | some value => if (draft.valuesOf? option).isSome then .ok draft else draft.take option value
    | none => .ok draft) draft

/-- The single value of an option, if it was given. -/
def valueOf? (draft : Draft) (option : ValueOption) : Option String :=
  (draft.valuesOf? option).bind List.head?

/-- The path that an option names, if it was given. -/
def pathOf? (draft : Draft) (option : ValueOption) : Option FilePath :=
  (draft.valueOf? option).map FilePath.mk

/-- What the collected values and flags ask for. -/
def options (draft : Draft) : CommandOptions where
  configFile := draft.pathOf? .config
  baseDirectory := draft.pathOf? .baseDirectory
  sourceRoot := draft.pathOf? .sourceRoot
  includes := draft.valuesOf? .includes
  excludes := draft.valuesOf? .excludes
  outputDirectory := draft.pathOf? .outputDirectory
  outputFile := draft.valueOf? .outputFile
  codecName := draft.valueOf? .codecName
  mapType := draft.valueOf? .mapType
  cratePrefix := draft.valueOf? .cratePrefix
  check := draft.flags.contains .check
  dryRun := draft.flags.contains .dryRun
  reportJson := draft.flags.contains .reportJson

end Draft

/-- The options that arguments and an environment name. A run that only compares shows nothing. -/
def parse (arguments : List String) (environment : Environment) :
    Except UsageStop CommandOptions := do
  let draft ← Draft.empty.readAll arguments
  let draft ← draft.readEnvironment environment
  if draft.options.check && draft.options.dryRun then .error .argumentConflict
  else .ok draft.options

end CommandLine

end Registrar
