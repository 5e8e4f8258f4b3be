import Registrar.Artifact.Source
import Registrar.Scope

/-!
# Configuration of a run

What a run reads, what it looks for and where it puts the artifact. Paths lead from the base
directory unless they are absolute. A configuration is checked before a run; the first problem
counts.
-/

namespace Registrar

/-- What a run reads, looks for and writes. -/
structure Config where
  baseDirectory : FilePath
  sourceRoot : FilePath
  sourceSets : List SourceSet
  outputDirectory : FilePath
  outputFile : String
  codecName : String
  mapType : String
  cratePrefix : String
  markers : MarkerNames
  contract : ContractNames
  deriving DecidableEq, Repr

namespace Config

/-- The configuration that holds unless options change it. -/
def standard : Config where
  baseDirectory := ⟨"."⟩
  sourceRoot := ⟨"src"⟩
  sourceSets := [SourceSet.standard]
  outputDirectory := ⟨"src/generated"⟩
  outputFile := "codec.g.rs"
  codecName := ArtifactSettings.standard.codecName
  mapType := ArtifactSettings.standard.mapType
  cratePrefix := "crate"
  markers := MarkerNames.standard
  contract := ContractNames.standard

/-- A path that leads from the base directory. -/
def resolve (config : Config) (path : FilePath) : FilePath :=
  config.baseDirectory.join path

/-- The path of the directory of the sources, as seen from the base directory. -/
def sourceRootPath (config : Config) : FilePath := config.resolve config.sourceRoot

/-- The path of the directory of the artifact, as seen from the base directory. -/
def outputDirectoryPath (config : Config) : FilePath := config.resolve config.outputDirectory

/-- The path of the artifact. -/
def outputPath (config : Config) : FilePath := config.outputDirectoryPath.join ⟨config.outputFile⟩

/-- What source files are examined by. -/
def scope (config : Config) : Scope where
  markers := config.markers
  contract := config.contract
  sourceRoot := config.sourceRootPath
  cratePrefix := config.cratePrefix

/-- What the artifact takes from a configuration. -/
def artifactSettings (config : Config) : ArtifactSettings where
  codecName := config.codecName
  mapType := config.mapType
  deserializeConstructor := config.contract.deserializeConstructor

/-- The selector of source files. Output that lies outside the base directory is not told to it. -/
def selector (config : Config) : Except Failure Selector :=
  Selector.ofSets config.sourceSets
    (config.outputDirectoryPath.componentsBelow? config.baseDirectory)
    (config.outputPath.componentsBelow? config.baseDirectory)

end Config

/-- What the names in a configuration are used for. -/
inductive NameRole
  | codec | encodableMarker | serializerMarker | deserializerMarker | serializeMethod
  | deserializeConstructor | mapTypeName
  deriving DecidableEq, Repr

/-- How a name is called in messages. -/
def NameRole.label : NameRole → String
  | codec => "codec name"
  | encodableMarker => "encodable marker"
  | serializerMarker => "serializer marker"
  | deserializerMarker => "deserializer marker"
  | serializeMethod => "serialize method"
  | deserializeConstructor => "deserialize constructor"
  | mapTypeName => "map type name"

/-- Why a configuration is not accepted. -/
inductive ConfigProblem
  | baseMissing (directory : FilePath)
  | baseNotDirectory (directory : FilePath)
  | noSourceSets
  | noIncludes (index : Nat)
  | badPattern (cause : Failure)
  | outputHoldsSources (outputDirectory sourceRoot : FilePath)
  | outputNotSource (file : String)
  | outputNotBare (file : String)
  | notAName (role : NameRole) (value : String)
  | prefixNotAPath (value : String)
  | mapTypeNotAType (value : String)
  deriving DecidableEq, Repr

namespace ConfigProblem

open Text (quoted quotedPath)

/-- The problem in words. -/
def message : ConfigProblem → String
  | baseMissing directory => "base directory " ++ quotedPath directory.text ++ " does not exist"
  | baseNotDirectory directory =>
    "base directory " ++ quotedPath directory.text ++ " is not a directory"
  | noSourceSets => "at least one source set must be configured"
  | noIncludes index => s!"source set #{index} has no include patterns"
  | badPattern _ => "invalid include/exclude pattern"
  | outputHoldsSources outputDirectory sourceRoot =>
    "output directory " ++ quotedPath outputDirectory.text ++ " contains the source root " ++
      quotedPath sourceRoot.text ++ "; no source file would be scanned"
  | outputNotSource file => "output file " ++ quoted file ++ " must end with .rs"
  | outputNotBare file => "output file " ++ quoted file ++ " must be a bare file name"
  | notAName role value => role.label ++ " " ++ quoted value ++ " is not a valid Rust identifier"
  | prefixNotAPath value => "crate prefix " ++ quoted value ++ " is not a path"
  | mapTypeNotAType value => "map type " ++ quoted value ++ " is not a type"

/-- The failure that a problem comes from, if it comes from one. -/
def cause? : ConfigProblem → Option Failure
  | badPattern cause => some cause
  | _ => none

end ConfigProblem

namespace Config

/-- Reports a problem unless a condition holds. -/
def require (condition : Bool) (problem : ConfigProblem) : Except ConfigProblem Unit :=
  if condition then .ok () else .error problem

/-- Reports the first source set that includes nothing. -/
def checkIncludes (sets : List SourceSet) : Except ConfigProblem Unit :=
  match sets.findIdx? fun set => set.includes.isEmpty with
  | some index => .error (.noIncludes index)
  | none => .ok ()

/-- Whether the patterns of all source sets can be read. -/
def checkPatterns (sets : List SourceSet) : Except ConfigProblem Unit :=
  match Selector.ofSets sets none none with
  | .ok _ => .ok ()
  | .error failure => .error (.badPattern failure)

/-- Whether the output directory is given as the base directory itself. -/
def outputsToBase (config : Config) : Bool :=
  config.outputDirectory.text.isEmpty || config.outputDirectory.text == "."

/-- Reports a text that may not be used as a name. -/
def checkName (role : NameRole) (value : String) : Except ConfigProblem Unit :=
  require (Source.isName value.toList) (.notAName role value)

/-- Reports the first problem of a configuration in a workspace. -/
def validate (config : Config) (workspace : Workspace) : Except ConfigProblem Unit := do
  require (workspace.pathExists config.baseDirectory) (.baseMissing config.baseDirectory)
  require (workspace.isDirectory config.baseDirectory) (.baseNotDirectory config.baseDirectory)
  require (!config.sourceSets.isEmpty) .noSourceSets
  checkIncludes config.sourceSets
  checkPatterns config.sourceSets
  require (config.outputsToBase || !config.sourceRootPath.isUnder config.outputDirectoryPath)
    (.outputHoldsSources config.outputDirectory config.sourceRoot)
  require (".rs".toList.isSuffixOf config.outputFile.toList) (.outputNotSource config.outputFile)
  require ((FilePath.mk config.outputFile).components.length == 1)
    (.outputNotBare config.outputFile)
  checkName .codec config.codecName
  checkName .encodableMarker config.markers.encodable
  checkName .serializerMarker config.markers.serializer
  checkName .deserializerMarker config.markers.deserializer
  checkName .serializeMethod config.contract.serializeMethod
  checkName .deserializeConstructor config.contract.deserializeConstructor
  checkName .mapTypeName config.contract.mapTypeName
  require (Source.isPath config.cratePrefix.toList) (.prefixNotAPath config.cratePrefix)
  require (Source.isType config.mapType.toList) (.mapTypeNotAType config.mapType)

end Config

end Registrar
