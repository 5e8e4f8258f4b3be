import Registrar.Artifact.Collision
import Registrar.Artifact.Imports
import Registrar.Text.Quoted
import Registrar.Text.UpperSnake
import Registrar.Time.Instant

/-!
# Source text of the artifact

The text is put together from sections: a header of three comment lines, imports, the types of the
codec, the factories of the candidates and what converts where no override does. It is a function of
the settings, the aggregation and the instant that its header tells.
-/

namespace Registrar

/-- The names that an artifact takes from the configuration. -/
structure ArtifactSettings where
  codecName : String
  mapType : String
  deserializeConstructor : String
  deriving DecidableEq, Repr

namespace ArtifactSettings

/-- The settings that are used unless others are given. -/
def standard : ArtifactSettings where
  codecName := "AppCodec"
  mapType := "HashMap<String, serde_json::Value>"
  deserializeConstructor := ContractNames.standard.deserializeConstructor

end ArtifactSettings

namespace ArtifactSource

/-- Lines of text, each with its line break. -/
def block (lines : List String) : List Char :=
  lines.flatMap fun line => line.toList ++ ['\n']

/-- The line that says that the text is generated. -/
def markerLine : List Char :=
  "// @generated by codec-registry-gen. Do not edit by hand.\n".toList

/-- The line that tells when the text was generated. -/
def stampLine (instant : Instant) : List Char :=
  "// Generated at: ".toList ++ instant.stamp ++ ['\n']

/-- The line that tells how many declarations there are, and from how many modules. -/
def countLine (candidates : List Candidate) : List Char :=
  let modules := sortedDistinct (candidates.map Candidate.module)
  "// Source: ".toList ++ Nat.toDigits 10 candidates.length ++
    " encodable declaration(s) from ".toList ++ Nat.toDigits 10 modules.length ++
    " module(s)\n".toList

/-- The imports of the text, its own ones first. -/
def importSection (aggregation : Aggregation) : List Char :=
  block ["", "use std::any::Any;", "use std::collections::HashMap;", "use std::sync::LazyLock;"] ++
    (importLines aggregation).flatMap (fun line => '\n' :: line.toList) ++ ['\n', '\n']

/-- The types of the maps and of the functions that build values from them. -/
def mapSection (settings : ArtifactSettings) : List Char :=
  "pub type EncodableMap = ".toList ++ settings.mapType.toList ++ block [
    ";",
    "",
    "pub type EncodableFactory = fn(EncodableMap) -> Box<dyn Any + Send>;",
    ""]

/-- What gives a conversion: the type of the override, or the one that changes nothing. -/
structure Converter where
  typeName : String
  value : String

/-- A conversion that was taken over, or the one that the artifact has for itself. -/
def Converter.ofOverride (held : Option OverrideBinding) (fallback : String) : Converter :=
  match held with
  | some binding => ⟨binding.name, binding.name ++ "::default()"⟩
  | none => ⟨fallback, fallback⟩

/-- The names of the converters that change nothing. -/
def passThroughEncoder : String := "PassThroughEncoder"

/-- The name of the decoder that changes nothing. -/
def passThroughDecoder : String := "PassThroughDecoder"

/-- The function that hands over a conversion. -/
def accessor (name : String) (converter : Converter) : List Char :=
  block [
    "    pub fn " ++ name ++ "(&self) -> " ++ converter.typeName ++ " \x7b",
    "        " ++ converter.value,
    "    \x7d"]

/-- The type that looks up the functions, with its own functions. -/
def codecSection (settings : ArtifactSettings) (aggregation : Aggregation) : List Char :=
  block [
    "/// Builds encodable values from maps, looked up by registry key.",
    "pub struct " ++ settings.codecName ++ " \x7b",
    "    factories: HashMap<&'static str, EncodableFactory>,",
    "\x7d",
    "",
    "impl " ++ settings.codecName ++ " \x7b",
    "    pub fn new(factories: HashMap<&'static str, EncodableFactory>) -> Self \x7b",
    "        Self \x7b factories \x7d",
    "    \x7d",
    "",
    "    pub fn factories(&self) -> &HashMap<&'static str, EncodableFactory> \x7b",
    "        &self.factories",
    "    \x7d",
    "",
    "    pub fn decode(&self, key: &str, map: EncodableMap) -> Option<Box<dyn Any + Send>> \x7b",
    "        self.factories.get(key).map(|factory| factory(map))",
    "    \x7d",
    ""] ++
  accessor "encoder" (.ofOverride aggregation.serializer passThroughEncoder) ++ ['\n'] ++
  accessor "decoder" (.ofOverride aggregation.deserializer passThroughDecoder) ++
  block ["\x7d", ""]

/-- The statement that registers the factory of a candidate. -/
def insertStatement (settings : ArtifactSettings) (candidate : Candidate) : List Char :=
  "    factories.insert(".toList ++ Text.quotedCharacters false candidate.key.toList ++
    ", |map| Box::new(".toList ++ candidate.name.toList ++ "::".toList ++
    settings.deserializeConstructor.toList ++ "(map)) as Box<dyn Any + Send>);".toList

/-- The function that registers the factories of all candidates. -/
def factorySection (settings : ArtifactSettings) (candidates : List Candidate) : List Char :=
  block ["pub fn encodable_factories() -> HashMap<&'static str, EncodableFactory> \x7b"] ++
    ("    let mut factories: HashMap<&'static str, EncodableFactory> = " ++
      "HashMap::new();").toList ++
    candidates.flatMap (fun candidate => '\n' :: insertStatement settings candidate) ++
    block ["", "    factories", "\x7d", ""]

/-- The codec that is made of all factories. -/
def instanceSection (settings : ArtifactSettings) : List Char :=
  "pub static ".toList ++ Text.upperSnake settings.codecName.toList ++ block [
    ": LazyLock<" ++ settings.codecName ++ "> =",
    "    LazyLock::new(|| " ++ settings.codecName ++ "::new(encodable_factories()));"]

/-- A converter that changes nothing, where no override is held. -/
def fallbackSection (held : Option OverrideBinding) (name : String) : List Char :=
  if held.isSome then []
  else block [
    "",
    "/// Returns its input unchanged.",
    "#[derive(Debug, Clone, Copy, Default)]",
    "pub struct " ++ name ++ ";",
    "",
    "impl " ++ name ++ " \x7b",
    "    pub fn convert<T>(&self, input: T) -> T \x7b",
    "        input",
    "    \x7d",
    "\x7d"]

/-- The text below the line that tells when it was generated. -/
def body (settings : ArtifactSettings) (aggregation : Aggregation) : List Char :=
  let candidates := Candidate.sorted aggregation.candidates
  countLine candidates ++ importSection aggregation ++ mapSection settings ++
    codecSection settings aggregation ++ factorySection settings candidates ++
    instanceSection settings ++
    fallbackSection aggregation.serializer passThroughEncoder ++
    fallbackSection aggregation.deserializer passThroughDecoder

/-- The whole text of an artifact that is stamped with an instant. -/
def text (settings : ArtifactSettings) (aggregation : Aggregation) (instant : Instant) :
    List Char :=
  markerLine ++ stampLine instant ++ body settings aggregation

end ArtifactSource

end Registrar
