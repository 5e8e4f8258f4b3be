import Registrar.Environment
import Registrar.FilePath

/-!
# Log settings

How and where the events of a run are written. The environment may change the defaults; a value
that is not known leaves them as they are.
-/

namespace Registrar

/-- The forms that a line of the log can have. -/
inductive LogFormat
  | json | pretty
  deriving DecidableEq, Repr

/-- How a form is called in events. -/
def LogFormat.title : LogFormat → String
  | json => "Json"
  | pretty => "Pretty"

/-- Where the log is asked to go. -/
inductive LogOutput
  | standardOutput | standardError | file
  deriving DecidableEq, Repr

/-- How a place is called in events. -/
def LogOutput.title : LogOutput → String
  | standardOutput => "Stdout"
  | standardError => "Stderr"
  | file => "File"

/-- Lower case letters for the upper case letters of ASCII. -/
def asciiLower (text : String) : String :=
  String.ofList (text.toList.map Char.toLower)

/-- The form of the given name, in any case of letters. -/
def LogFormat.ofText? (text : String) : Option LogFormat :=
  match asciiLower text with
  | "json" => some .json
  | "pretty" => some .pretty
  | _ => none

/-- The place of the given name, in any case of letters. -/
def LogOutput.ofText? (text : String) : Option LogOutput :=
  match asciiLower text with
  | "stdout" => some .standardOutput
  | "stderr" => some .standardError
  | "file" => some .file
  | _ => none

/-- How and where events are written. -/
structure LogSettings where
  format : LogFormat
  output : LogOutput
  directory : FilePath
  fileName : String
  defaultFilter : String
  colored : Bool
  deriving DecidableEq, Repr

namespace LogSettings

/-- The settings that hold unless the environment changes them. -/
def standard : LogSettings where
  format := .pretty
  output := .standardError
  directory := ⟨"logs"⟩
  fileName := "codec-registry-gen"
  defaultFilter := "codec_registry_gen=info"
  colored := true

/-- The settings that an environment asks for. Colours are off in builds and where they are not
wanted, whatever the value of the variable that says so. -/
def ofEnvironment (environment : Environment) : LogSettings where
  format := ((environment.get? "LOG_FORMAT").bind LogFormat.ofText?).getD standard.format
  output := ((environment.get? "LOG_OUTPUT").bind LogOutput.ofText?).getD standard.output
  directory := ((environment.get? "LOG_DIR").map FilePath.mk).getD standard.directory
  fileName := standard.fileName
  defaultFilter := standard.defaultFilter
  colored := !(environment.isSet "NO_COLOR" || environment.isSet "OUT_DIR")

end LogSettings

end Registrar
