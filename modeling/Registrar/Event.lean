import Registrar.Aggregation
import Registrar.Artifact.Collision
import Registrar.Discovery
import Registrar.Logging.Settings

/-!
# Events

What a run tells about itself while it goes on. An event has a level, a message and named fields,
and comes from one part of a run.
-/

namespace Registrar

/-- How much an event matters. -/
inductive EventLevel
  | debug | info | warning | error
  deriving DecidableEq, Repr

/-- How a level is called in a log. -/
def EventLevel.label : EventLevel → String
  | debug => "DEBUG"
  | info => "INFO"
  | warning => "WARN"
  | error => "ERROR"

/-- The parts of the program that events come from. -/
inductive EventOrigin
  | program | logging | discovery | aggregation | run | publication
  deriving DecidableEq, Repr

/-- How a part is called in a log. -/
def EventOrigin.label : EventOrigin → String
  | program => "codec_registry_gen"
  | logging => "codec_registry_gen::logging"
  | discovery => "codec_registry_gen::codegen::discovery"
  | aggregation => "codec_registry_gen::codegen::aggregate"
  | run => "codec_registry_gen::codegen::pipeline"
  | publication => "codec_registry_gen::codegen::writer"

/-- What stands in a field. -/
inductive FieldValue
  /-- A text that stands between quotes where a reader could not tell its end. -/
  | delimited (value : String)
  | bare (value : String)
  | count (value : Nat)
  deriving DecidableEq, Repr

/-- What happened. -/
inductive Event
  | loggingStarted (format : LogFormat) (output : LogOutput)
  | discoveryDone (discovery : Discovery)
  | generatedFileIgnored (path : FilePath)
  | outputDirectoryFileSkipped (path : FilePath)
  | directoryUnreadable (path : FilePath) (cause : FileError)
  | declarationFound (candidate : Candidate)
  | declarationExcluded (file : FilePath) (rejection : Rejection)
  | overrideFound (binding : OverrideBinding)
  | overrideReplaced (kind : OverrideKind) (replaced successor : String)
  | fileNotApplicable (file : FilePath) (reason : Inapplicability)
  | generatedHeaderSkipped (file : FilePath)
  | fileFailed (file : FilePath) (error : String)
  | aggregationDone (aggregation : Aggregation)
  | nothingFound
  | artifactLeft (path : FilePath)
  | sourceDateIgnored (value : String)
  | artifactRestamped (path : FilePath)
  | keyCollided (collision : KeyCollision)
  | publicationSkipped (path : FilePath)
  | artifactWritten (path : FilePath) (declarations : Nat)
  | artifactUnchanged (path : FilePath)
  | artifactOutdated (path : FilePath)
  | publicationFailed (path : FilePath) (failure : Failure)
  | checkFailed
  deriving DecidableEq, Repr

namespace Event

/-- How much an event matters. -/
def level : Event → EventLevel
  | loggingStarted _ _ | discoveryDone _ | generatedFileIgnored _ | fileNotApplicable _ _
  | generatedHeaderSkipped _ | artifactRestamped _ | publicationSkipped _ => .debug
  | declarationFound _ | overrideFound _ | aggregationDone _ | nothingFound | artifactWritten _ _
  | artifactUnchanged _ => .info
  | outputDirectoryFileSkipped _ | directoryUnreadable _ _ | declarationExcluded _ _
  | overrideReplaced _ _ _ | fileFailed _ _ | artifactLeft _ | sourceDateIgnored _ | keyCollided _
  | artifactOutdated _ => .warning
  | publicationFailed _ _ | checkFailed => .error

/-- The part of the program that an event comes from. -/
def origin : Event → EventOrigin
  | checkFailed => .program
  | loggingStarted _ _ => .logging
  | generatedFileIgnored _ | outputDirectoryFileSkipped _ | directoryUnreadable _ _ => .discovery
  | declarationFound _ | declarationExcluded _ _ | overrideFound _ | overrideReplaced _ _ _
  | fileNotApplicable _ _ | generatedHeaderSkipped _ | fileFailed _ _
  | aggregationDone _ => .aggregation
  | discoveryDone _ | nothingFound | artifactLeft _ | sourceDateIgnored _ | artifactRestamped _
  | keyCollided _ | artifactWritten _ _ | artifactUnchanged _ | artifactOutdated _
  | publicationFailed _ _ => .run
  | publicationSkipped _ => .publication

/-- The event in words. -/
def message : Event → String
  | loggingStarted _ _ => "logging initialized"
  | discoveryDone _ => "discovery complete"
  | generatedFileIgnored _ => "ignoring prior generated output"
  | outputDirectoryFileSkipped _ => "skipping file under the output directory"
  | directoryUnreadable _ _ => "skipping unreadable directory entry"
  | declarationFound _ => "found encodable declaration"
  | declarationExcluded _ rejection => "excluding declaration: " ++ rejection.message
  | overrideFound _ => "found override"
  | overrideReplaced _ _ _ => "multiple overrides found, keeping the last one scanned"
  | fileNotApplicable _ _ => "file not applicable"
  | generatedHeaderSkipped _ => "skipping file with generated header"
  | fileFailed _ _ => "failed to process file"
  | aggregationDone _ => "aggregation complete"
  | nothingFound => "no encodable declarations found, skipping generation"
  | artifactLeft _ => "existing registry left in place; it may name removed declarations"
  | sourceDateIgnored _ => "ignoring invalid SOURCE_DATE_EPOCH"
  | artifactRestamped _ => "registry body changed, restamping"
  | keyCollided _ => "registry key collision, last entry wins"
  | publicationSkipped _ => "artifact unchanged, skipping write"
  | artifactWritten _ _ => "registry written"
  | artifactUnchanged _ => "registry unchanged"
  | artifactOutdated _ => "registry is out of date"
  | publicationFailed _ _ => "failed to write registry"
  | checkFailed => "generated registry is out of date; rerun without --check"

/-- The field with the path that an event is about. -/
def pathField (path : FilePath) : String × FieldValue := ("path", .bare path.text)

/-- The field with the source file that an event is about. -/
def fileField (file : FilePath) : String × FieldValue := ("file", .bare file.text)

/-- The field with the name of an override, if there is one. -/
def overrideField (name : String) (binding : Option OverrideBinding) :
    List (String × FieldValue) :=
  (binding.map fun binding => (name, .delimited binding.name)).toList

/-- The fields with the numbers of all findings. -/
def aggregationFields (aggregation : Aggregation) : List (String × FieldValue) :=
  [("declarations", .count aggregation.candidates.length),
    ("files_scanned", .count aggregation.statistics.filesScanned),
    ("not_applicable", .count aggregation.statistics.filesNotApplicable),
    ("rejected", .count aggregation.statistics.rejections.length),
    ("failures", .count aggregation.statistics.failures.length)] ++
  overrideField "serializer" aggregation.serializer ++
  overrideField "deserializer" aggregation.deserializer

/-- The fields of an event, in the order in which they are shown. -/
def fields : Event → List (String × FieldValue)
  | loggingStarted format output =>
    [("format", .bare format.title), ("output", .bare output.title)]
  | discoveryDone discovery =>
    [("matched", .count discovery.files.length), ("excluded", .count discovery.excluded),
      ("prior_outputs", .count discovery.priorOutputs)]
  | generatedFileIgnored path | outputDirectoryFileSkipped path | artifactLeft path
  | artifactRestamped path | publicationSkipped path | artifactUnchanged path
  | artifactOutdated path => [pathField path]
  | declarationFound candidate =>
    [("declaration", .delimited candidate.name), ("module", .delimited candidate.module),
      ("key", .delimited candidate.key)]
  | declarationExcluded file rejection =>
    [fileField file, ("declaration", .bare rejection.declaration),
      ("missing", .bare (", ".intercalate (rejection.parts.map ContractPart.label)))]
  | overrideFound binding =>
    [("kind", .bare binding.kind.title), ("declaration", .bare binding.name),
      ("module", .delimited binding.module)]
  | overrideReplaced kind replaced successor =>
    [("kind", .bare kind.title), ("replaced", .bare replaced), ("with", .bare successor)]
  | fileNotApplicable file reason => [fileField file, ("reason", .delimited reason.message)]
  | generatedHeaderSkipped file => [fileField file]
  | directoryUnreadable path cause => [("error", .bare (cause.messageAt path))]
  | fileFailed file error => [fileField file, ("error", .bare error)]
  | aggregationDone aggregation => aggregationFields aggregation
  | sourceDateIgnored value => [("value", .bare value)]
  | keyCollided collision =>
    [("key", .bare collision.key), ("kept", .bare collision.kept),
      ("shadowed", .bare collision.shadowed)]
  | artifactWritten path declarations =>
    [pathField path, ("declarations", .count declarations)]
  | publicationFailed path failure =>
    [pathField path, ("category", .bare failure.category.label), ("error", .bare failure.message)]
  | nothingFound | checkFailed => []

end Event

end Registrar
