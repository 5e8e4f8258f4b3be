import Registrar.Config.FieldReading
import Registrar.Document.Json
import Registrar.Document.Toml
import Registrar.Document.Yaml
import Registrar.Text.Quoted

/-!
# Configuration files

The extension of a file tells its format. A base directory that a file names is sought from the
directory that holds the file.
-/

namespace Registrar

/-- The formats of configuration files. -/
inductive ConfigFormat
  | yaml | json | toml
  deriving DecidableEq, Repr

namespace ConfigFormat

/-- How a format is called in messages. -/
def label : ConfigFormat → String
  | yaml => "YAML"
  | json => "JSON"
  | toml => "TOML"

/-- The format of an extension in lower case letters. -/
def ofExtension? : String → Option ConfigFormat
  | "yaml" | "yml" => some .yaml
  | "json" => some .json
  | "toml" => some .toml
  | _ => none

/-- How lists stand for tables in a format. -/
def positionalTables : ConfigFormat → PositionalTables
  | yaml => .refused
  | json => .exact
  | toml => .lenient

/-- The document of a text in a format. -/
def read? (format : ConfigFormat) (text : List Char) : Option Document :=
  match format with
  | yaml => Yaml.read? text
  | json => Json.read? text
  | toml => Toml.read? text

end ConfigFormat

/-- Why a configuration file cannot be used. -/
inductive ConfigFileProblem
  | missing (path : FilePath)
  | unreadable (path : FilePath)
  | unknownExtension (extension : String)
  | malformed (format : ConfigFormat) (path : FilePath)
  deriving DecidableEq, Repr

/-- What is wrong with a configuration file, in words. -/
def ConfigFileProblem.message : ConfigFileProblem → String
  | missing path => "config file " ++ Text.quotedPath path.text ++ " does not exist"
  | unreadable path => "failed to read config file " ++ Text.quotedPath path.text
  | unknownExtension extension => "unsupported config extension: " ++ extension
  | malformed format path =>
    "failed to parse " ++ format.label ++ " config " ++ Text.quotedPath path.text

/-- A base directory that a file names, sought from the directory that holds the file. -/
def anchored (file base : FilePath) : FilePath :=
  if base.isAbsolute then base
  else match file.parent? with
    | some parent => parent.join base
    | none => base

/-- The extension of a path in lower case letters, empty where it has none. -/
def lowerExtension (path : FilePath) : String :=
  String.ofList ((path.extension?.getD "").toList.map Char.toLower)

namespace FileOptions

/-- The options that a text in a format names. -/
def ofText? (format : ConfigFormat) (text : String) : Option FileOptions := do
  ofDocument? format.positionalTables (← format.read? text.toList)

/-- The options that a configuration file names. -/
def load (workspace : Workspace) (path : FilePath) : Except ConfigFileProblem FileOptions :=
  if !workspace.pathExists path then .error (.missing path)
  else match workspace.readText path with
    | .error _ => .error (.unreadable path)
    | .ok text =>
      match ConfigFormat.ofExtension? (lowerExtension path) with
      | none => .error (.unknownExtension (lowerExtension path))
      | some format =>
        match ofText? format text with
        | none => .error (.malformed format path)
        | some options =>
          .ok { options with baseDirectory := options.baseDirectory.map (anchored path) }

end FileOptions

namespace Config

/-- The configuration that options name, with those of the configuration file that they name. -/
def ofOptions (workspace : Workspace) (command : CommandOptions) :
    Except ConfigFileProblem Config :=
  match command.configFile with
  | none => .ok (ofLayers command FileOptions.empty)
  | some path => (FileOptions.load workspace path).map (ofLayers command)

end Config

end Registrar
