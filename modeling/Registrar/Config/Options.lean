import Registrar.Config

/-!
# Layers of options

An option is taken from the command line or the environment, else from the configuration file, else
from the defaults, each option by itself. Patterns are one option: where the command line or the
environment names some, the file is not asked for any.
-/

namespace Registrar

/-- The markers that a configuration file names. -/
structure MarkerOptions where
  encodable : Option String
  serializer : Option String
  deserializer : Option String
  deriving DecidableEq, Repr

/-- The settings in a configuration file. Each may be missing. -/
structure FileOptions where
  baseDirectory : Option FilePath
  sourceRoot : Option FilePath
  includes : Option (List String)
  excludes : Option (List String)
  sourceSets : Option (List SourceSet)
  outputDirectory : Option FilePath
  outputFile : Option String
  codecName : Option String
  mapType : Option String
  cratePrefix : Option String
  serializeMethod : Option String
  deserializeConstructor : Option String
  mapTypeName : Option String
  markers : Option MarkerOptions
  deriving DecidableEq, Repr

/-- No marker is set. -/
def MarkerOptions.empty : MarkerOptions := ⟨none, none, none⟩

/-- Nothing is set. -/
def FileOptions.empty : FileOptions :=
  ⟨none, none, none, none, none, none, none, none, none, none, none, none, none, none⟩

/-- What a run should do with the artifact. -/
inductive RunMode
  | write
  /-- Compares the artifact with the file at its path. -/
  | check
  /-- Shows the artifact. -/
  | dryRun
  deriving DecidableEq, Repr

namespace RunMode

/-- How a mode is called in reports. -/
def label : RunMode → String
  | write => "write"
  | check => "check"
  | dryRun => "dry_run"

/-- How a mode is called in events. -/
def title : RunMode → String
  | write => "Write"
  | check => "Check"
  | dryRun => "DryRun"

end RunMode

/-- What the command line asks for. Each setting may be missing. -/
structure CommandOptions where
  configFile : Option FilePath
  baseDirectory : Option FilePath
  sourceRoot : Option FilePath
  includes : Option (List String)
  excludes : Option (List String)
  outputDirectory : Option FilePath
  outputFile : Option String
  codecName : Option String
  mapType : Option String
  cratePrefix : Option String
  check : Bool
  dryRun : Bool
  reportJson : Bool
  deriving DecidableEq, Repr

namespace CommandOptions

/-- No options. -/
def empty : CommandOptions :=
  ⟨none, none, none, none, none, none, none, none, none, none, false, false, false⟩

/-- What the run should do. -/
def mode (options : CommandOptions) : RunMode :=
  if options.check then .check else if options.dryRun then .dryRun else .write

end CommandOptions

/-- The source set that patterns make, if some are named. The other half has its default. -/
def SourceSet.ofOptions? (includes excludes : Option (List String)) : Option SourceSet :=
  if includes.isSome || excludes.isSome then
    some ⟨includes.getD SourceSet.standard.includes, excludes.getD SourceSet.standard.excludes⟩
  else none

namespace MarkerNames

/-- The markers that hold with those that a file names. -/
def ofOptions (options : MarkerOptions) : MarkerNames where
  encodable := options.encodable.getD standard.encodable
  serializer := options.serializer.getD standard.serializer
  deserializer := options.deserializer.getD standard.deserializer

end MarkerNames

namespace FileOptions

/-- The names of the contract that hold with those that a file names. -/
def contract (file : FileOptions) : ContractNames where
  serializeMethod := file.serializeMethod.getD ContractNames.standard.serializeMethod
  deserializeConstructor :=
    file.deserializeConstructor.getD ContractNames.standard.deserializeConstructor
  mapTypeName := file.mapTypeName.getD ContractNames.standard.mapTypeName

/-- The source sets that a file names: a list of them, or else the single set of its patterns. -/
def namedSourceSets? (file : FileOptions) : Option (List SourceSet) :=
  file.sourceSets <|> (SourceSet.ofOptions? file.includes file.excludes).map fun set => [set]

end FileOptions

namespace Config

/-- The configuration that the layers of options make. -/
def ofLayers (command : CommandOptions) (file : FileOptions) : Config where
  baseDirectory := (command.baseDirectory <|> file.baseDirectory).getD standard.baseDirectory
  sourceRoot := (command.sourceRoot <|> file.sourceRoot).getD standard.sourceRoot
  sourceSets :=
    (((SourceSet.ofOptions? command.includes command.excludes).map fun set => [set]) <|>
      file.namedSourceSets?).getD standard.sourceSets
  outputDirectory :=
    (command.outputDirectory <|> file.outputDirectory).getD standard.outputDirectory
  outputFile := (command.outputFile <|> file.outputFile).getD standard.outputFile
  codecName := (command.codecName <|> file.codecName).getD standard.codecName
  mapType := (command.mapType <|> file.mapType).getD standard.mapType
  cratePrefix := (command.cratePrefix <|> file.cratePrefix).getD standard.cratePrefix
  markers := MarkerNames.ofOptions (file.markers.getD MarkerOptions.empty)
  contract := file.contract

end Config

end Registrar
