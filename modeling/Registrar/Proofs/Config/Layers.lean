import Registrar.Config.File
import Registrar.Proofs.Config.CommandLine
import Registrar.Proofs.Config.OutputDirectory

/-!
# Layers of options stay apart

A configuration is made of settings, each with options of its own on the command line, in the
environment and in the configuration file; patterns make up one setting. What holds of a setting is
told by what these say on it: the command line and the environment come first, then the file, then
the default. No setting is told by what is said on another one, so that a file counts only where
nothing before it does.
-/

namespace Registrar

/-- A part of a configuration that is set on its own. -/
inductive Setting
  | baseDirectory | sourceRoot | sourceSets | outputDirectory | outputFile | codecName | mapType
  | cratePrefix | encodableMarker | serializerMarker | deserializerMarker | serializeMethod
  | deserializeConstructor | mapTypeName
  deriving DecidableEq, Repr

/-- What a setting is set to. Paths are given by their texts. -/
inductive SettingValue
  | text (value : String)
  | sets (value : List SourceSet)
  deriving DecidableEq, Repr

namespace SettingValue

/-- A path as the value of a setting. -/
def ofPath (path : FilePath) : SettingValue := .text path.text

/-- A path that is sought from a directory. -/
def below (directory : FilePath) : SettingValue → SettingValue
  | text path => ofPath (directory.join ⟨path⟩)
  | sets value => sets value

theorem ofPath_inj {path other : FilePath} : ofPath path = ofPath other ↔ path = other := by
  rw [ofPath, ofPath, text.injEq, FilePath.mk.injEq]

end SettingValue

/-- The source set of patterns of which both halves are given, or one. The other is the default. -/
def SourceSet.ofHalves? : Option (List String) → Option (List String) → Option SourceSet
  | none, none => none
  | some includes, none => some ⟨includes, []⟩
  | none, some excludes => some ⟨["src/**/*.rs"], excludes⟩
  | some includes, some excludes => some ⟨includes, excludes⟩

theorem SourceSet.ofOptions?_eq (includes excludes : Option (List String)) :
    SourceSet.ofOptions? includes excludes = SourceSet.ofHalves? includes excludes := by
  cases includes <;> cases excludes <;> rfl

namespace Setting

/-- Every setting. -/
def all : List Setting :=
  [baseDirectory, sourceRoot, sourceSets, outputDirectory, outputFile, codecName, mapType,
    cratePrefix, encodableMarker, serializerMarker, deserializerMarker, serializeMethod,
    deserializeConstructor, mapTypeName]

theorem mem_all (setting : Setting) : setting ∈ all := by
  cases setting <;> decide

/-- The option that is about a setting. Two options are about the source sets, and none about
markers and names of the contract. -/
def option? : Setting → Option ValueOption
  | baseDirectory => some .baseDirectory
  | sourceRoot => some .sourceRoot
  | outputDirectory => some .outputDirectory
  | outputFile => some .outputFile
  | codecName => some .codecName
  | mapType => some .mapType
  | cratePrefix => some .cratePrefix
  | sourceSets | encodableMarker | serializerMarker | deserializerMarker | serializeMethod
  | deserializeConstructor | mapTypeName => none

/-- What options say on a setting, if they say anything. -/
def given? (told : ValueOption → Option (List String)) (setting : Setting) :
    Option SettingValue :=
  match setting with
  | sourceSets =>
    (SourceSet.ofHalves? (told .includes) (told .excludes)).map fun set => .sets [set]
  | _ => (setting.option?.bind fun option => (told option).bind List.head?).map .text

/-- The name of the field that is about a setting in a configuration file. -/
def fieldName : Setting → String
  | baseDirectory => "base_dir"
  | sourceRoot => "source_root"
  | sourceSets => "source_sets"
  | outputDirectory => "output_dir"
  | outputFile => "output_file"
  | codecName => "codec_name"
  | mapType => "map_type"
  | cratePrefix => "crate_prefix"
  | encodableMarker => "encodable"
  | serializerMarker => "serializer"
  | deserializerMarker => "deserializer"
  | serializeMethod => "serialize_method"
  | deserializeConstructor => "deserialize_constructor"
  | mapTypeName => "map_type_name"

end Setting

/-- The table of a configuration file. -/
structure ConfigTable where
  path : FilePath
  format : ConfigFormat
  fields : List (String × Document)

namespace ConfigTable

/-- The table of the file at a path, if it is one that can be read. -/
def at? (workspace : Workspace) (path : FilePath) : Option ConfigTable := do
  let text ← (workspace.readText path).toOption
  let format ← ConfigFormat.ofExtension? (lowerExtension path)
  let document ← format.read? text.toList
  let fields ← Document.fields? format.positionalTables FileOptions.fieldNames document
  return ⟨path, format, fields⟩

variable (table : ConfigTable)

/-- The directory that holds the file of a table. -/
def directory : FilePath := table.path.parent?.getD ⟨""⟩

/-- The text of a field. -/
def text? (name : String) : Option String :=
  (Document.field? table.fields name Document.text?).join

/-- The texts in the list of a field. -/
def texts? (name : String) : Option (List String) :=
  (Document.field? table.fields name (Document.list? Document.text?)).join

/-- The source sets in the list of a field. -/
def sets? (name : String) : Option (List SourceSet) :=
  (Document.field? table.fields name
    (Document.list? (SourceSet.ofDocument? table.format.positionalTables))).join

/-- The text of a field of the markers. -/
def marker? (name : String) : Option String :=
  (Document.field? table.fields "markers"
    (Document.fields? table.format.positionalTables MarkerOptions.fieldNames)).join.bind
      fun markers => (Document.field? markers name Document.text?).join

/-- What the fields of a table say on a setting, if they say anything. -/
def named? (setting : Setting) : Option SettingValue :=
  match setting with
  | .sourceSets =>
    (table.sets? setting.fieldName <|>
      (SourceSet.ofHalves? (table.texts? "include") (table.texts? "exclude")).map fun set =>
        [set]).map .sets
  | .encodableMarker | .serializerMarker | .deserializerMarker =>
    (table.marker? setting.fieldName).map .text
  | _ => (table.text? setting.fieldName).map .text

/-- What a table sets a setting to. Its base directory is sought from the directory of its file. -/
def value? (setting : Setting) : Option SettingValue :=
  match setting with
  | .baseDirectory => (table.named? setting).map (.below table.directory)
  | _ => table.named? setting

end ConfigTable

/-- What a configuration sets a setting to. -/
def Config.value (config : Config) : Setting → SettingValue
  | .baseDirectory => .ofPath config.baseDirectory
  | .sourceRoot => .ofPath config.sourceRoot
  | .sourceSets => .sets config.sourceSets
  | .outputDirectory => .ofPath config.outputDirectory
  | .outputFile => .text config.outputFile
  | .codecName => .text config.codecName
  | .mapType => .text config.mapType
  | .cratePrefix => .text config.cratePrefix
  | .encodableMarker => .text config.markers.encodable
  | .serializerMarker => .text config.markers.serializer
  | .deserializerMarker => .text config.markers.deserializer
  | .serializeMethod => .text config.contract.serializeMethod
  | .deserializeConstructor => .text config.contract.deserializeConstructor
  | .mapTypeName => .text config.contract.mapTypeName

/-- What options of the command line set a setting to. -/
def CommandOptions.value? (options : CommandOptions) : Setting → Option SettingValue
  | .baseDirectory => options.baseDirectory.map .ofPath
  | .sourceRoot => options.sourceRoot.map .ofPath
  | .sourceSets =>
    (SourceSet.ofOptions? options.includes options.excludes).map fun set => .sets [set]
  | .outputDirectory => options.outputDirectory.map .ofPath
  | .outputFile => options.outputFile.map .text
  | .codecName => options.codecName.map .text
  | .mapType => options.mapType.map .text
  | .cratePrefix => options.cratePrefix.map .text
  | _ => none

/-- What options of a configuration file set a setting to. -/
def FileOptions.value? (options : FileOptions) : Setting → Option SettingValue
  | .baseDirectory => options.baseDirectory.map .ofPath
  | .sourceRoot => options.sourceRoot.map .ofPath
  | .sourceSets => options.namedSourceSets?.map .sets
  | .outputDirectory => options.outputDirectory.map .ofPath
  | .outputFile => options.outputFile.map .text
  | .codecName => options.codecName.map .text
  | .mapType => options.mapType.map .text
  | .cratePrefix => options.cratePrefix.map .text
  | .encodableMarker => (options.markers.bind MarkerOptions.encodable).map .text
  | .serializerMarker => (options.markers.bind MarkerOptions.serializer).map .text
  | .deserializerMarker => (options.markers.bind MarkerOptions.deserializer).map .text
  | .serializeMethod => options.serializeMethod.map .text
  | .deserializeConstructor => options.deserializeConstructor.map .text
  | .mapTypeName => options.mapTypeName.map .text

namespace Config

/-- A configuration is told by its settings. -/
theorem ext_value {config other : Config}
    (same : ∀ setting, config.value setting = other.value setting) : config = other := by
  rcases config with ⟨⟨_⟩, ⟨_⟩, _, ⟨_⟩, _, _, _, _, ⟨_, _, _⟩, ⟨_, _, _⟩⟩
  rcases other with ⟨⟨_⟩, ⟨_⟩, _, ⟨_⟩, _, _, _, _, ⟨_, _, _⟩, ⟨_, _, _⟩⟩
  cases same .baseDirectory
  cases same .sourceRoot
  cases same .sourceSets
  cases same .outputDirectory
  cases same .outputFile
  cases same .codecName
  cases same .mapType
  cases same .cratePrefix
  cases same .encodableMarker
  cases same .serializerMarker
  cases same .deserializerMarker
  cases same .serializeMethod
  cases same .deserializeConstructor
  cases same .mapTypeName
  rfl

theorem getD_map_orElse {Value Other : Type} (wrap : Value → Other) (first second : Option Value)
    (last : Value) : (first.map wrap <|> second.map wrap).getD (wrap last) =
      wrap ((first <|> second).getD last) := by
  cases first <;> cases second <;> rfl

/-- The value of a setting comes from the first layer that sets it. -/
theorem value_ofLayers (command : CommandOptions) (file : FileOptions) (setting : Setting) :
    (ofLayers command file).value setting =
      (command.value? setting <|> file.value? setting).getD (standard.value setting) := by
  cases setting with
  | baseDirectory => exact (getD_map_orElse SettingValue.ofPath _ _ _).symm
  | sourceRoot => exact (getD_map_orElse SettingValue.ofPath _ _ _).symm
  | sourceSets =>
    have wrapped := getD_map_orElse SettingValue.sets
      ((SourceSet.ofOptions? command.includes command.excludes).map fun set => [set])
      file.namedSourceSets? standard.sourceSets
    rw [Option.map_map] at wrapped
    exact wrapped.symm
  | outputDirectory => exact (getD_map_orElse SettingValue.ofPath _ _ _).symm
  | outputFile => exact (getD_map_orElse _ _ _ _).symm
  | codecName => exact (getD_map_orElse _ _ _ _).symm
  | mapType => exact (getD_map_orElse _ _ _ _).symm
  | cratePrefix => exact (getD_map_orElse _ _ _ _).symm
  | encodableMarker =>
    rcases file with ⟨_, _, _, _, _, _, _, _, _, _, _, _, _, _ | markers⟩
    · rfl
    · exact (getD_map_orElse _ none _ _).symm
  | serializerMarker =>
    rcases file with ⟨_, _, _, _, _, _, _, _, _, _, _, _, _, _ | markers⟩
    · rfl
    · exact (getD_map_orElse _ none _ _).symm
  | deserializerMarker =>
    rcases file with ⟨_, _, _, _, _, _, _, _, _, _, _, _, _, _ | markers⟩
    · rfl
    · exact (getD_map_orElse _ none _ _).symm
  | serializeMethod => exact (getD_map_orElse _ none _ _).symm
  | deserializeConstructor => exact (getD_map_orElse _ none _ _).symm
  | mapTypeName => exact (getD_map_orElse _ none _ _).symm

end Config

/-- The options of a draft set what their values say. -/
theorem CommandLine.Draft.value?_options {draft : Draft}
    {told : ValueOption → Option (List String)}
    (holds : ∀ option, draft.valuesOf? option = told option) (setting : Setting) :
    draft.options.value? setting = setting.given? told := by
  have single : ∀ option, draft.valueOf? option = (told option).bind List.head? := fun option => by
    rw [valueOf?, holds]
  have path : ∀ option, (draft.pathOf? option).map SettingValue.ofPath =
      ((told option).bind List.head?).map .text := fun option => by
    rw [pathOf?, single, Option.map_map]
    rfl
  cases setting with
  | baseDirectory => exact path .baseDirectory
  | sourceRoot => exact path .sourceRoot
  | outputDirectory => exact path .outputDirectory
  | sourceSets =>
    rw [Setting.given?, CommandOptions.value?, SourceSet.ofOptions?_eq, options, holds, holds]
  | outputFile => exact congrArg (Option.map SettingValue.text) (single .outputFile)
  | codecName => exact congrArg (Option.map SettingValue.text) (single .codecName)
  | mapType => exact congrArg (Option.map SettingValue.text) (single .mapType)
  | cratePrefix => exact congrArg (Option.map SettingValue.text) (single .cratePrefix)
  | _ => rfl

namespace Document

/-- A field is missing whatever it is read as, or it is a value that everything is read from. -/
theorem field?_eq_some {Read : Type} {fields : List (String × Document)} {name : String}
    {read : Document → Option Read} {result : Option Read}
    (found : field? fields name read = some result) :
    (result = none ∧
        ∀ {Other : Type} (other : Document → Option Other), field? fields name other = some none) ∨
      ∃ document value, result = some value ∧ read document = some value ∧
        ∀ {Other : Type} (other : Document → Option Other),
          field? fields name other = (other document).map some := by
  rw [field?] at found
  rcases present : fields.lookup name with _ | document
  · rw [present] at found
    cases found
    exact Or.inl ⟨rfl, fun other => by rw [field?, present]⟩
  · rw [present] at found
    by_cases missing : (∃ spelling, document = .null spelling) ∨ document = .void
    · rcases missing with ⟨spelling, rfl⟩ | rfl
      · cases found
        exact Or.inl ⟨rfl, fun other => by rw [field?, present]; rfl⟩
      · cases found
        exact Or.inl ⟨rfl, fun other => by rw [field?, present]; rfl⟩
    · have optional : ∀ {Other : Type} (other : Document → Option Other),
          optional? other document = (other document).map some := by
        intro Other other
        cases document with
        | null spelling => exact absurd (Or.inl ⟨spelling, rfl⟩) missing
        | void => exact absurd (Or.inr rfl) missing
        | _ => rfl
      dsimp only at found
      rw [optional, Option.map_eq_some_iff] at found
      rcases found with ⟨value, isRead, rfl⟩
      refine Or.inr ⟨document, value, rfl, isRead, fun other => ?_⟩
      rw [field?, present]
      exact optional other

end Document

namespace ConfigTable

variable {table : ConfigTable} {name : String}

theorem text?_of_field? {value : Option String}
    (found : Document.field? table.fields name Document.text? = some value) :
    table.text? name = value := by
  rw [text?, found]
  rfl

theorem map_text?_of_field? {value : Option FilePath}
    (found : Document.field? table.fields name FileOptions.path? = some value) :
    (table.text? name).map FilePath.mk = value := by
  rw [text?]
  rcases Document.field?_eq_some found with ⟨rfl, same⟩ | ⟨document, path, rfl, isRead, same⟩
  · rw [same]
    rfl
  · rw [same, ← isRead, FileOptions.path?]
    cases document.text? <;> rfl

theorem marker?_of_field? {markers : Option MarkerOptions}
    (found : Document.field? table.fields "markers"
      (MarkerOptions.ofDocument? table.format.positionalTables) = some markers) :
    table.marker? "encodable" = markers.bind MarkerOptions.encodable ∧
      table.marker? "serializer" = markers.bind MarkerOptions.serializer ∧
      table.marker? "deserializer" = markers.bind MarkerOptions.deserializer := by
  rcases Document.field?_eq_some found with ⟨rfl, same⟩ | ⟨document, options, rfl, isRead, same⟩
  · simp only [marker?, same]
    exact ⟨rfl, rfl, rfl⟩
  · rcases Option.bind_eq_some_iff.1 isRead with ⟨fields, isTable, isRead⟩
    rcases Option.bind_eq_some_iff.1 isRead with ⟨encodable, readEncodable, isRead⟩
    rcases Option.bind_eq_some_iff.1 isRead with ⟨serializer, readSerializer, isRead⟩
    rcases Option.bind_eq_some_iff.1 isRead with ⟨deserializer, readDeserializer, made⟩
    cases made
    simp only [marker?, same, isTable, Option.map_some, Option.join_some, Option.bind_some,
      readEncodable, readSerializer, readDeserializer, and_self]

end ConfigTable

namespace FileOptions

/-- The options of a table set what its fields say. -/
theorem value?_of_ofDocument? {table : ConfigTable} {document : Document} {options : FileOptions}
    (isTable : Document.fields? table.format.positionalTables fieldNames document =
      some table.fields)
    (isRead : ofDocument? table.format.positionalTables document = some options)
    (setting : Setting) : options.value? setting = table.named? setting := by
  rcases Option.bind_eq_some_iff.1 isRead with ⟨fields, sameTable, isRead⟩
  rcases Option.bind_eq_some_iff.1 isRead with ⟨baseDirectory, readBase, isRead⟩
  rcases Option.bind_eq_some_iff.1 isRead with ⟨sourceRoot, readRoot, isRead⟩
  rcases Option.bind_eq_some_iff.1 isRead with ⟨includes, readIncludes, isRead⟩
  rcases Option.bind_eq_some_iff.1 isRead with ⟨excludes, readExcludes, isRead⟩
  rcases Option.bind_eq_some_iff.1 isRead with ⟨sourceSets, readSets, isRead⟩
  rcases Option.bind_eq_some_iff.1 isRead with ⟨outputDirectory, readDirectory, isRead⟩
  rcases Option.bind_eq_some_iff.1 isRead with ⟨outputFile, readFile, isRead⟩
  rcases Option.bind_eq_some_iff.1 isRead with ⟨codecName, readCodec, isRead⟩
  rcases Option.bind_eq_some_iff.1 isRead with ⟨mapType, readMapType, isRead⟩
  rcases Option.bind_eq_some_iff.1 isRead with ⟨cratePrefix, readPrefix, isRead⟩
  rcases Option.bind_eq_some_iff.1 isRead with ⟨serializeMethod, readMethod, isRead⟩
  rcases Option.bind_eq_some_iff.1 isRead with ⟨deserializeConstructor, readConstructor, isRead⟩
  rcases Option.bind_eq_some_iff.1 isRead with ⟨mapTypeName, readMapTypeName, isRead⟩
  rcases Option.bind_eq_some_iff.1 isRead with ⟨markers, readMarkers, made⟩
  cases made
  rw [isTable, Option.some.injEq] at sameTable
  subst sameTable
  have ofPath : ∀ {name : String} {value : Option FilePath},
      Document.field? table.fields name path? = some value →
        value.map SettingValue.ofPath = (table.text? name).map .text := by
    intro name value found
    rw [← ConfigTable.map_text?_of_field? found, Option.map_map]
    rfl
  have ofText : ∀ {name : String} {value : Option String},
      Document.field? table.fields name Document.text? = some value →
        value.map SettingValue.text = (table.text? name).map .text := by
    intro name value found
    rw [ConfigTable.text?_of_field? found]
  rcases ConfigTable.marker?_of_field? readMarkers with
    ⟨encodable, serializer, deserializer⟩
  cases setting with
  | baseDirectory => exact ofPath readBase
  | sourceRoot => exact ofPath readRoot
  | sourceSets =>
    have sets : table.sets? "source_sets" = sourceSets := by
      rw [ConfigTable.sets?, readSets]
      rfl
    have halves : table.texts? "include" = includes ∧ table.texts? "exclude" = excludes := by
      rw [ConfigTable.texts?, ConfigTable.texts?, readIncludes, readExcludes]
      exact ⟨rfl, rfl⟩
    rw [ConfigTable.named?, Setting.fieldName, sets, halves.1, halves.2,
      ← SourceSet.ofOptions?_eq]
    rfl
  | outputDirectory => exact ofPath readDirectory
  | outputFile => exact ofText readFile
  | codecName => exact ofText readCodec
  | mapType => exact ofText readMapType
  | cratePrefix => exact ofText readPrefix
  | encodableMarker => exact congrArg (Option.map SettingValue.text) encodable.symm
  | serializerMarker => exact congrArg (Option.map SettingValue.text) serializer.symm
  | deserializerMarker => exact congrArg (Option.map SettingValue.text) deserializer.symm
  | serializeMethod => exact ofText readMethod
  | deserializeConstructor => exact ofText readConstructor
  | mapTypeName => exact ofText readMapTypeName

theorem anchored_eq (table : ConfigTable) (base : FilePath) :
    anchored table.path base = table.directory.join base := by
  rw [anchored, ConfigTable.directory]
  split
  · rename_i absolute
    rw [FilePath.join, if_pos absolute]
  · rename_i relative
    cases table.path.parent? with
    | none => simp [FilePath.join, relative]
    | some parent => rfl

/-- Only the base directory is told by where a file is. -/
theorem value?_anchored {raw : FileOptions} {table : ConfigTable}
    (named : ∀ setting, raw.value? setting = table.named? setting) (setting : Setting) :
    FileOptions.value? { raw with baseDirectory := raw.baseDirectory.map (anchored table.path) }
      setting = table.value? setting := by
  by_cases isBase : setting = .baseDirectory
  · subst isBase
    have base : raw.baseDirectory.map SettingValue.ofPath = table.named? .baseDirectory :=
      named .baseDirectory
    rw [value?, ConfigTable.value?, ← base, Option.map_map, Option.map_map]
    apply Option.map_congr
    intro path _
    exact congrArg SettingValue.ofPath (anchored_eq table path)
  · have unanchored : FileOptions.value?
        { raw with baseDirectory := raw.baseDirectory.map (anchored table.path) } setting =
        raw.value? setting ∧ table.value? setting = table.named? setting := by
      cases setting with
      | baseDirectory => exact absurd rfl isBase
      | _ => exact ⟨rfl, rfl⟩
    rw [unanchored.1, unanchored.2, named]

/-- A file that is loaded sets what its table does. -/
theorem exists_table_of_load {workspace : Workspace} {path : FilePath} {options : FileOptions}
    (loaded : load workspace path = .ok options) :
    ∃ table, ConfigTable.at? workspace path = some table ∧
      ∀ setting, options.value? setting = table.value? setting := by
  rw [load] at loaded
  split at loaded
  · cases loaded
  · split at loaded
    · cases loaded
    · rename_i text isText
      split at loaded
      · cases loaded
      · rename_i format isFormat
        split at loaded
        · cases loaded
        · rename_i raw isRead
          cases loaded
          rcases Option.bind_eq_some_iff.1 isRead with ⟨document, isDocument, isRead⟩
          rcases Option.bind_eq_some_iff.1 isRead with ⟨fields, isTable, _⟩
          refine ⟨⟨path, format, fields⟩, ?_, fun setting => ?_⟩
          · simp [ConfigTable.at?, isText, Except.toOption, isFormat, isDocument, isTable]
          · exact @value?_anchored _ ⟨path, format, fields⟩
              (value?_of_ofDocument? isTable isRead) setting

end FileOptions

/-- What a configuration is made from. -/
structure Invocation where
  arguments : List String
  environment : Environment
  workspace : Workspace

namespace Invocation

variable (invocation : Invocation)

/-- What the command line gives to an option, or else the environment. -/
def told? (option : ValueOption) : Option (List String) :=
  CommandLine.told? invocation.arguments invocation.environment option

/-- What the command line gives to a setting, or else the environment. -/
def given? (setting : Setting) : Option SettingValue := setting.given? invocation.told?

/-- The table of the configuration file that is named. -/
def table? : Option ConfigTable :=
  ((invocation.told? .config).bind List.head?).bind fun path =>
    ConfigTable.at? invocation.workspace ⟨path⟩

/-- The directory of the configuration file that is named. -/
def directory? : Option FilePath := invocation.table?.map ConfigTable.directory

/-- What the configuration file says about a setting, as it says it. -/
def named? (setting : Setting) : Option SettingValue :=
  invocation.table?.bind fun table => table.named? setting

/-- What the configuration file gives to a setting. -/
def filed? (setting : Setting) : Option SettingValue :=
  invocation.table?.bind fun table => table.value? setting

/-- Whether a command line can be read, and so can the configuration file that it names. -/
structure Loads (command : CommandOptions) : Prop where
  parsed : CommandLine.parse invocation.arguments invocation.environment = .ok command
  loaded : ∀ path, command.configFile = some path →
    ∃ options, FileOptions.load invocation.workspace path = .ok options

/-- Whether two invocations say the same on a setting. Where the command line or the environment
sets it, nothing is asked of the files. -/
def AgreesOn (left right : Invocation) (setting : Setting) : Prop :=
  left.given? setting = right.given? setting ∧
    ((left.given? setting).isSome ∨ left.named? setting = right.named? setting)

instance (left right : Invocation) (setting : Setting) :
    Decidable (left.AgreesOn right setting) :=
  inferInstanceAs (Decidable (_ ∧ _))

variable {invocation}

/-- What is loaded makes a configuration, of which each setting comes from its first layer. -/
theorem Loads.exists_config {command : CommandOptions} (loads : invocation.Loads command) :
    ∃ config, Config.ofOptions invocation.workspace command = .ok config ∧
      ∀ setting, config.value setting = (invocation.given? setting <|>
        invocation.filed? setting).getD (Config.standard.value setting) := by
  rcases CommandLine.exists_draft_of_parse loads.parsed with ⟨draft, rfl, holds⟩
  have given := CommandLine.Draft.value?_options holds
  have configFile : draft.options.configFile =
      ((invocation.told? .config).bind List.head?).map FilePath.mk := by
    rw [CommandLine.Draft.options, CommandLine.Draft.pathOf?, CommandLine.Draft.valueOf?, holds,
      told?]
  rcases named : draft.options.configFile with _ | path
  · have noTable : invocation.table? = none := by
      rw [configFile, Option.map_eq_none_iff] at named
      rw [table?, named, Option.bind_none]
    refine ⟨Config.ofLayers draft.options FileOptions.empty, ?_, fun setting => ?_⟩
    · rw [Config.ofOptions, named]
    · rw [Config.value_ofLayers, given, filed?, noTable]
      cases setting <;> rfl
  · rcases loads.loaded path named with ⟨options, loaded⟩
    rcases FileOptions.exists_table_of_load loaded with ⟨table, isTable, values⟩
    have hasTable : invocation.table? = some table := by
      rw [configFile, Option.map_eq_some_iff] at named
      rcases named with ⟨text, given, rfl⟩
      rw [table?, given, Option.bind_some, isTable]
    refine ⟨Config.ofLayers draft.options options, ?_, fun setting => ?_⟩
    · rw [Config.ofOptions, named]
      dsimp only
      rw [loaded, Except.map]
    · rw [Config.value_ofLayers, given, values, filed?, hasTable]
      rfl

/-- A setting that is not the base directory does not depend on where a file is. -/
theorem filed?_eq_named? {setting : Setting} (notBase : setting ≠ .baseDirectory) :
    invocation.filed? setting = invocation.named? setting := by
  cases setting with
  | baseDirectory => exact absurd rfl notBase
  | _ => rfl

theorem filed?_baseDirectory : invocation.filed? .baseDirectory =
    invocation.directory?.bind fun directory =>
      (invocation.named? .baseDirectory).map (.below directory) := by
  rw [filed?, directory?, named?]
  cases invocation.table? <;> rfl

section Agreement

variable {left right : Invocation} {command commandToo : CommandOptions} {config other : Config}
  (valued : ∀ setting, config.value setting =
    (left.given? setting <|> left.filed? setting).getD (Config.standard.value setting))
  (valuedToo : ∀ setting, other.value setting =
    (right.given? setting <|> right.filed? setting).getD (Config.standard.value setting))

include valued valuedToo

/-- Files do not count for a setting that the command line or the environment sets. -/
theorem value_eq_of_isSome {setting : Setting}
    (sameGiven : left.given? setting = right.given? setting)
    (isGiven : (left.given? setting).isSome) : config.value setting = other.value setting := by
  rcases Option.isSome_iff_exists.1 isGiven with ⟨value, given⟩
  rw [valued, valuedToo, ← sameGiven, given]
  rfl

theorem AgreesOn.value_eq {setting : Setting} (agrees : left.AgreesOn right setting)
    (sameDirectory : setting = .baseDirectory → left.directory? = right.directory?) :
    config.value setting = other.value setting := by
  rcases agrees with ⟨sameGiven, isGiven | sameName⟩
  · exact value_eq_of_isSome valued valuedToo sameGiven isGiven
  · rw [valued, valuedToo, sameGiven]
    by_cases isBase : setting = .baseDirectory
    · subst isBase
      rw [filed?_baseDirectory, filed?_baseDirectory, sameDirectory rfl, sameName]
    · rw [filed?_eq_named? isBase, filed?_eq_named? isBase, sameName]

/-- Base directories that are named from one directory are the same, however this is spelled. -/
theorem AgreesOn.components_baseDirectory (agrees : left.AgreesOn right .baseDirectory)
    (sameDirectory : left.directory?.map FilePath.components =
      right.directory?.map FilePath.components) :
    other.baseDirectory.components = config.baseDirectory.components := by
  have alike : config.value .baseDirectory = other.value .baseDirectory →
      other.baseDirectory.components = config.baseDirectory.components := fun same =>
    congrArg FilePath.components (SettingValue.ofPath_inj.1 same.symm)
  rcases agrees with ⟨sameGiven, isGiven | sameName⟩
  · exact alike (value_eq_of_isSome valued valuedToo sameGiven isGiven)
  · have value := valued .baseDirectory
    have valueToo := valuedToo .baseDirectory
    rw [filed?_baseDirectory] at value
    rw [← sameGiven, filed?_baseDirectory, ← sameName] at valueToo
    rcases isGiven : left.given? .baseDirectory with _ | given
    · rcases inLeft : left.directory? with _ | directory
      · rw [inLeft, Option.map_none, eq_comm, Option.map_eq_none_iff] at sameDirectory
        rw [inLeft] at value
        rw [sameDirectory] at valueToo
        exact alike (value.trans valueToo.symm)
      · rw [inLeft, Option.map_some, eq_comm, Option.map_eq_some_iff] at sameDirectory
        rcases sameDirectory with ⟨directoryToo, inRight, sameComponents⟩
        rw [isGiven, inLeft] at value
        rw [isGiven, inRight] at valueToo
        rcases named : left.named? .baseDirectory with _ | ⟨path⟩ | sets
        · rw [named] at value valueToo
          exact alike (value.trans valueToo.symm)
        · rw [named] at value valueToo
          rw [SettingValue.ofPath_inj.1 value, SettingValue.ofPath_inj.1 valueToo]
          exact FilePath.components_join_congr sameComponents rfl
        · rw [named] at value
          cases value
    · exact alike (value_eq_of_isSome valued valuedToo sameGiven (by rw [isGiven]; rfl))

end Agreement

end Invocation

/-- Layers of options stay apart. Where the command line can be read and so can the configuration
file that it names, there is a configuration; each setting in it is what the command line or the
environment gives, or else what the file sets, or else the default. Two such invocations set a
setting alike if they agree on it, whatever they say on other settings. So with files of one
directory that differ only in what the command line or the environment sets, there is one
configuration; only its base directory may be spelled in two ways, as the directory is. -/
theorem Config.layers_stay_apart {left right : Invocation} {command commandToo : CommandOptions}
    (loads : left.Loads command) (loadsToo : right.Loads commandToo) :
    ∃ config other, Config.ofOptions left.workspace command = .ok config ∧
      Config.ofOptions right.workspace commandToo = .ok other ∧
      (∀ setting, config.value setting =
        (left.given? setting <|> left.filed? setting).getD (standard.value setting)) ∧
      (∀ setting, left.AgreesOn right setting →
        (setting = .baseDirectory → left.directory? = right.directory?) →
          config.value setting = other.value setting) ∧
      ((∀ setting, left.AgreesOn right setting) →
        left.directory?.map FilePath.components = right.directory?.map FilePath.components →
          other = { config with baseDirectory := other.baseDirectory } ∧
            other.baseDirectory.components = config.baseDirectory.components ∧
            (left.directory? = right.directory? → config = other)) := by
  rcases loads.exists_config with ⟨config, made, valued⟩
  rcases loadsToo.exists_config with ⟨other, madeToo, valuedToo⟩
  have agreed := fun setting (agrees : left.AgreesOn right setting) sameDirectory =>
    agrees.value_eq valued valuedToo sameDirectory
  refine ⟨config, other, made, madeToo, valued, agreed, fun agrees sameComponents => ⟨?_, ?_, ?_⟩⟩
  · apply Config.ext_value
    intro setting
    by_cases isBase : setting = .baseDirectory
    · subst isBase
      rfl
    · rw [← agreed setting (agrees setting) fun base => absurd base isBase]
      cases setting with
      | baseDirectory => exact absurd rfl isBase
      | _ => rfl
  · exact Invocation.AgreesOn.components_baseDirectory valued valuedToo (agrees _) sameComponents
  · intro sameDirectory
    exact Config.ext_value fun setting => agreed setting (agrees setting) fun _ => sameDirectory

namespace Sample

/-- Two configuration files of one directory. They differ in the type of maps, in the name of the
codec and in the patterns. -/
def layeredWorkspace : Workspace where
  tree := ⟨[(["conf"], .directory),
    (["conf", "a.json"], .file (String.toUTF8
      "\x7b\"base_dir\":\"..\",\"map_type\":\"N\",\"exclude\":[\"x.rs\"]\x7d")),
    (["conf", "b.json"], .file (String.toUTF8
      "\x7b\"base_dir\":\"..\",\"codec_name\":\"D\",\"source_sets\":[]\x7d"))]⟩
  directory := []

/-- An invocation that sets all in which the files differ. -/
def layered (file : String) : Invocation where
  arguments := ["--config", file, "--map-type", "M", "--include=a.rs,b.rs"]
  environment := ⟨[("CODEC_REGISTRY_CODEC_NAME", "C")]⟩
  workspace := layeredWorkspace

/-- The options of the invocation. -/
def layeredOptions (file : String) : CommandOptions :=
  { CommandOptions.empty with
    configFile := some ⟨file⟩
    mapType := some "M"
    includes := some ["a.rs", "b.rs"]
    codecName := some "C" }

theorem reads_layered : ∀ file ∈ ["conf/a.json", "conf/b.json"],
    CommandLine.parse (layered file).arguments (layered file).environment =
        .ok (layeredOptions file) ∧
      (FileOptions.load layeredWorkspace ⟨file⟩).toOption.isSome = true := by
  decide +kernel

theorem loads_layered {file : String} (member : file ∈ ["conf/a.json", "conf/b.json"]) :
    (layered file).Loads (layeredOptions file) := by
  rcases reads_layered file member with ⟨parsed, loaded⟩
  refine ⟨parsed, ?_⟩
  rintro _ ⟨⟩
  rcases Option.isSome_iff_exists.1 loaded with ⟨options, told⟩
  exact ⟨options, Workspace.toOption_eq_some_iff.1 told⟩

theorem agrees_layered :
    (∀ setting ∈ Setting.all,
      (layered "conf/a.json").AgreesOn (layered "conf/b.json") setting) ∧
      (layered "conf/a.json").directory? = (layered "conf/b.json").directory? := by
  decide +kernel

/-- The two files make one configuration, whose base directory they name. -/
theorem layers_stay_apart_layered :
    ∃ config, Config.ofOptions layeredWorkspace (layeredOptions "conf/a.json") = .ok config ∧
      Config.ofOptions layeredWorkspace (layeredOptions "conf/b.json") = .ok config ∧
      config.baseDirectory = ⟨"conf/.."⟩ ∧ config.mapType = "M" := by
  obtain ⟨config, other, made, madeToo, valued, _, alike⟩ := Config.layers_stay_apart
    (@loads_layered "conf/a.json" (by decide)) (@loads_layered "conf/b.json" (by decide))
  rcases agrees_layered with ⟨agreesOnAll, sameDirectory⟩
  have agrees : ∀ setting, (layered "conf/a.json").AgreesOn (layered "conf/b.json") setting :=
    fun setting => agreesOnAll setting setting.mem_all
  have same : config = other := (alike agrees (congrArg _ sameDirectory)).2.2 sameDirectory
  have base : config.value .baseDirectory = .ofPath ⟨"conf/.."⟩ := by
    rw [valued]
    decide +kernel
  have map : config.value .mapType = .text "M" := by
    rw [valued]
    decide
  exact ⟨config, made, same ▸ madeToo, SettingValue.ofPath_inj.1 base, SettingValue.text.inj map⟩

end Sample

end Registrar
