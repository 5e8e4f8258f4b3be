import Registrar.Config.Options
import Registrar.Document

/-!
# Options in documents

A document is read as the options of a configuration file. An option that is missing is not named;
one that is there has to be of its kind.
-/

namespace Registrar

open Document (field? fields? list? text?)

namespace SourceSet

/-- The fields of a source set, in their order. -/
def fieldNames : List String := ["include", "exclude"]

/-- The patterns of a field, none where the field is missing. -/
def patterns? (fields : List (String × Document)) (name : String) : Option (List String) :=
  match fields.lookup name with
  | none => some []
  | some value => list? text? value

/-- The source set that a document describes. -/
def ofDocument? (positional : PositionalTables) (document : Document) : Option SourceSet := do
  let fields ← fields? positional fieldNames document
  return ⟨← patterns? fields "include", ← patterns? fields "exclude"⟩

end SourceSet

namespace MarkerOptions

/-- The names of the fields for markers, in their order. -/
def fieldNames : List String := ["encodable", "serializer", "deserializer"]

/-- The markers that a document describes. -/
def ofDocument? (positional : PositionalTables) (document : Document) : Option MarkerOptions := do
  let fields ← fields? positional fieldNames document
  return {
    encodable := ← field? fields "encodable" text?
    serializer := ← field? fields "serializer" text?
    deserializer := ← field? fields "deserializer" text? }

end MarkerOptions

namespace FileOptions

/-- The fields of a configuration file, in their order. -/
def fieldNames : List String :=
  ["base_dir", "source_root", "include", "exclude", "source_sets", "output_dir", "output_file",
    "codec_name", "map_type", "crate_prefix", "serialize_method", "deserialize_constructor",
    "map_type_name", "markers"]

/-- The path that a document is, as its text. -/
def path? (document : Document) : Option FilePath := (text? document).map FilePath.mk

/-- The settings that a document describes. -/
def ofDocument? (positional : PositionalTables) (document : Document) : Option FileOptions := do
  let fields ← fields? positional fieldNames document
  return {
    baseDirectory := ← field? fields "base_dir" path?
    sourceRoot := ← field? fields "source_root" path?
    includes := ← field? fields "include" (list? text?)
    excludes := ← field? fields "exclude" (list? text?)
    sourceSets := ← field? fields "source_sets" (list? (SourceSet.ofDocument? positional))
    outputDirectory := ← field? fields "output_dir" path?
    outputFile := ← field? fields "output_file" text?
    codecName := ← field? fields "codec_name" text?
    mapType := ← field? fields "map_type" text?
    cratePrefix := ← field? fields "crate_prefix" text?
    serializeMethod := ← field? fields "serialize_method" text?
    deserializeConstructor := ← field? fields "deserialize_constructor" text?
    mapTypeName := ← field? fields "map_type_name" text?
    markers := ← field? fields "markers" (MarkerOptions.ofDocument? positional) }

end FileOptions

end Registrar
