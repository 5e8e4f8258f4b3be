import Registrar.Proofs.Aggregation
import Registrar.Proofs.Artifact.ImportLines
import Registrar.Proofs.Artifact.Rendering

/-!
# What an artifact takes and defines to convert

The codec returns the type of an override where one is held, and otherwise a converter that changes
nothing. The text defines such a converter behind everything else where the codec returns it. The
definition starts like a comment for documentation, and nothing else that the text writes goes on
like it, so that it occurs elsewhere only in a text that is given by the settings.
-/

namespace Registrar

namespace OverrideKind

/-- Both kinds of conversions. -/
def all : List OverrideKind := [serializer, deserializer]

theorem mem_all (kind : OverrideKind) : kind ∈ all := by
  cases kind <;> decide

/-- The converter that stands in for an override. -/
def fallback : OverrideKind → String
  | serializer => ArtifactSource.passThroughEncoder
  | deserializer => ArtifactSource.passThroughDecoder

/-- The function of the codec that returns the converter of a kind. -/
def accessor : OverrideKind → String
  | serializer => "encoder"
  | deserializer => "decoder"

end OverrideKind

/-- The lines of the function that returns the converter of a kind. -/
def OverrideKind.accessorLines (kind : OverrideKind) (converter : ArtifactSource.Converter) :
    List String := [
  "    pub fn " ++ kind.accessor ++ "(&self) -> " ++ converter.typeName ++ " \x7b",
  "        " ++ converter.value,
  "    \x7d"]

/-- Whether one of the settings holds a text. -/
def ArtifactSettings.Spells (settings : ArtifactSettings) (text : List Char) : Prop :=
  text <:+: settings.mapType.toList ∨ text <:+: settings.codecName.toList ∨
    text <:+: settings.deserializeConstructor.toList

/-- What the artifact returns for a kind. -/
def Aggregation.converter (aggregation : Aggregation) (kind : OverrideKind) :
    ArtifactSource.Converter :=
  .ofOverride (aggregation.override? kind) kind.fallback

/-- Whether a declaration is a candidate or what an override names. -/
def Aggregation.Needs (aggregation : Aggregation) (id : DeclarationId) : Prop :=
  (∃ candidate ∈ aggregation.candidates, candidate.id = id) ∨
    ∃ kind binding, aggregation.override? kind = some binding ∧ binding.name = id.name ∧
      binding.module = id.module

theorem Aggregation.mem_importedIds {aggregation : Aggregation} {id : DeclarationId} :
    id ∈ aggregation.importedIds ↔ aggregation.Needs id := by
  rcases id with ⟨name, module⟩
  have overrides : (∃ kind binding, aggregation.override? kind = some binding ∧
      binding.name = name ∧ binding.module = module) ↔
        ∃ binding ∈ aggregation.serializer.toList ++ aggregation.deserializer.toList,
          binding.name = name ∧ binding.module = module := by
    constructor
    · rintro ⟨_ | _, binding, held, same⟩
      · exact ⟨binding, List.mem_append_left _ (Option.mem_toList.2 held), same⟩
      · exact ⟨binding, List.mem_append_right _ (Option.mem_toList.2 held), same⟩
    · rintro ⟨binding, member, same⟩
      rcases List.mem_append.1 member with serializer | deserializer
      · exact ⟨.serializer, binding, Option.mem_toList.1 serializer, same⟩
      · exact ⟨.deserializer, binding, Option.mem_toList.1 deserializer, same⟩
  rw [Needs, overrides, importedIds, List.mem_append, List.mem_map, List.mem_map]
  simp only [DeclarationId.mk.injEq]

namespace ArtifactSource

open Text

/-- The definition of a converter that changes nothing. -/
def definition (name : String) : List Char :=
  block [
    "/// Returns its input unchanged.",
    "#[derive(Debug, Clone, Copy, Default)]",
    "pub struct " ++ name ++ ";",
    "",
    "impl " ++ name ++ " \x7b",
    "    pub fn convert<T>(&self, input: T) -> T \x7b",
    "        input",
    "    \x7d",
    "\x7d"]

theorem fallbackSection_eq (held : Option OverrideBinding) (name : String) :
    fallbackSection held name = if held.isNone then '\n' :: definition name else [] := by
  cases held <;> rfl

/-- What follows the name of the codec where its fields are. -/
def codecFields : List String :=
  [" \x7b", "    factories: HashMap<&'static str, EncodableFactory>,", "\x7d", ""]

/-- What follows the name of the codec up to the functions that return converters. -/
def codecMethods : List String := [
  " \x7b",
  "    pub fn new(factories: HashMap<&'static str, EncodableFactory>) -> Self \x7b",
  "        Self \x7b factories \x7d",
  "    \x7d",
  "",
  "    pub fn factories(&self) -> &HashMap<&'static str, EncodableFactory> \x7b",
  "        &self.factories",
  "    \x7d",
  "",
  "    pub fn decode(&self, key: &str, map: EncodableMap) -> Option<Box<dyn Any + Send>> \x7b",
  "        self.factories.get(key).map(|factory| factory(map))",
  "    \x7d",
  ""]

theorem block_cons_append (start name finish : String) (others : List String) :
    block ((start ++ name ++ finish) :: others) =
      start.toList ++ (name.toList ++ block (finish :: others)) := by
  rw [block_cons, block_cons, String.toList_append, String.toList_append, List.append_assoc,
    List.append_assoc]

/-- The lines of the functions that return converters, up to the end of the codec. -/
def accessorLines (aggregation : Aggregation) : List String :=
  OverrideKind.serializer.accessorLines (aggregation.converter .serializer) ++
    "" :: OverrideKind.deserializer.accessorLines (aggregation.converter .deserializer) ++ ["\x7d"]

/-- The lines of the codec are those of its type and those of what it implements. -/
theorem codecSection_eq_block (settings : ArtifactSettings) (aggregation : Aggregation) :
    codecSection settings aggregation =
      block ("/// Builds encodable values from maps, looked up by registry key." ::
        ("pub struct " ++ settings.codecName ++ " \x7b") :: codecFields.tail) ++
      block (("impl " ++ settings.codecName ++ " \x7b") ::
        (codecMethods.tail ++ accessorLines aggregation)) ++ block [""] := by
  have encoder : accessor "encoder" (.ofOverride aggregation.serializer passThroughEncoder) =
      block (OverrideKind.serializer.accessorLines (aggregation.converter .serializer)) := rfl
  have decoder : accessor "decoder" (.ofOverride aggregation.deserializer passThroughDecoder) =
      block (OverrideKind.deserializer.accessorLines (aggregation.converter .deserializer)) := rfl
  have written : codecSection settings aggregation =
      block ("/// Builds encodable values from maps, looked up by registry key." ::
        ("pub struct " ++ settings.codecName ++ " \x7b") :: (codecFields.tail ++
          ("impl " ++ settings.codecName ++ " \x7b") :: codecMethods.tail)) ++
        accessor "encoder" (.ofOverride aggregation.serializer passThroughEncoder) ++ block [""] ++
        accessor "decoder" (.ofOverride aggregation.deserializer passThroughDecoder) ++
        block ["\x7d", ""] := rfl
  rw [written, encoder, decoder, ← block_append, ← block_append, ← block_append, ← block_append,
    ← block_append, ← block_append]
  apply congrArg block
  simp only [accessorLines, List.append_assoc, List.cons_append, List.nil_append]

theorem codecSection_eq (settings : ArtifactSettings) (aggregation : Aggregation) :
    codecSection settings aggregation =
      block ["/// Builds encodable values from maps, looked up by registry key."] ++
        ("pub struct ".toList ++ (settings.codecName.toList ++ block codecFields)) ++
        ("impl ".toList ++ (settings.codecName.toList ++ block codecMethods)) ++
        block (accessorLines aggregation ++ [""]) := by
  have type : block ("/// Builds encodable values from maps, looked up by registry key." ::
      ("pub struct " ++ settings.codecName ++ " \x7b") :: codecFields.tail) =
      block ["/// Builds encodable values from maps, looked up by registry key."] ++
        ("pub struct ".toList ++ (settings.codecName.toList ++ block codecFields)) :=
    (block_append [_] _).trans (congrArg _ (block_cons_append _ _ _ _))
  have methods : block (("impl " ++ settings.codecName ++ " \x7b") ::
      (codecMethods.tail ++ accessorLines aggregation)) =
      "impl ".toList ++ (settings.codecName.toList ++ block codecMethods) ++
        block (accessorLines aggregation) :=
    (block_append (_ :: codecMethods.tail) _).trans
      (congrArg (· ++ _) (block_cons_append _ _ _ _))
  rw [codecSection_eq_block, type, methods, block_append,
    ← List.append_assoc _ _ (block (accessorLines aggregation)),
    List.append_assoc _ (block (accessorLines aggregation))]

theorem instanceSection_eq (settings : ArtifactSettings) :
    instanceSection settings = "pub static ".toList ++ upperSnake settings.codecName.toList ++
      (": LazyLock<".toList ++ (settings.codecName.toList ++
        (block ["> ="] ++ "    LazyLock::new(|| ".toList)) ++
        (settings.codecName.toList ++ block ["::new(encodable_factories()));"])) := by
  have first := block_cons_append ": LazyLock<" settings.codecName "> ="
    ["    LazyLock::new(|| " ++ settings.codecName ++ "::new(encodable_factories()));"]
  have second := block_cons_append "    LazyLock::new(|| " settings.codecName
    "::new(encodable_factories()));" []
  have lines := block_append ["> ="]
    ["    LazyLock::new(|| " ++ settings.codecName ++ "::new(encodable_factories()));"]
  rw [List.singleton_append, second] at lines
  rw [lines] at first
  have written : instanceSection settings =
      "pub static ".toList ++ upperSnake settings.codecName.toList ++ block
        [": LazyLock<" ++ settings.codecName ++ "> =",
          "    LazyLock::new(|| " ++ settings.codecName ++ "::new(encodable_factories()));"] := rfl
  rw [written, first]
  simp only [List.append_assoc]

/-- What is written in front of anything that may follow, and starts like a comment. -/
def comments : List (List Char) := [markerLine, "// Generated at: ".toList, "// Source: ".toList,
  block ["/// Builds encodable values from maps, looked up by registry key."]]

/-- What is written behind the settings. -/
def settingEnds : List (List Char) := [
  block [";", "", "pub type EncodableFactory = fn(EncodableMap) -> Box<dyn Any + Send>;", ""],
  block codecFields,
  block codecMethods,
  "(map)) as Box<dyn Any + Send>);".toList,
  block ["> ="] ++ "    LazyLock::new(|| ".toList,
  block ["::new(encodable_factories()));"]]

section Passes

variable {kind : OverrideKind} {given : Prop} {settings : ArtifactSettings}
  {aggregation : Aggregation}

theorem definition_eq (name : String) :
    ∃ more, definition name = "/// Returns its input unchanged.".toList ++ '\n' :: more :=
  ⟨_, block_cons _ _⟩

theorem passes_of_slash_not_mem {name : String} {part : List Char} (missing : '/' ∉ part) :
    Passes (definition name) given part := by
  have first : "/// Returns its input unchanged.".toList.head? = some '/' := by
    decide
  rcases definition_eq name with ⟨more, whole⟩
  apply Passes.of_head_not_mem _ missing
  rw [whole, List.head?_append, first, Option.some_or]

theorem passes_comment {name : String} {comment : List Char} (isComment : comment ∈ comments) :
    Passes (definition name) given comment := by
  have differs : ∀ comment ∈ comments, ∀ tail ∈ comment.tails, tail ≠ [] →
      differ "/// Returns its input unchanged.".toList tail = true := by
    decide
  rcases definition_eq name with ⟨more, whole⟩
  apply Passes.of_differ
  intro tail isTail nonempty
  rw [whole]
  exact differ_append (differs comment isComment tail isTail nonempty) _

/-- What is written behind a setting does not complete a definition that starts in it. -/
theorem passes_setting {setting : String} {behind : List Char} (isEnd : behind ∈ settingEnds)
    (stands : definition kind.fallback <:+: setting.toList → given) :
    Passes (definition kind.fallback) given (setting.toList ++ behind) := by
  have ends : ∀ behind ∈ settingEnds, '/' ∉ behind ∧ ∀ kind ∈ OverrideKind.all,
      ∀ tail ∈ (definition kind.fallback).tails, tail ≠ [] → differ tail behind = true := by
    decide +kernel
  rcases ends behind isEnd with ⟨missing, differs⟩
  exact .append_of_differ stands (differs kind kind.mem_all) (passes_of_slash_not_mem missing)

/-- The two definitions differ in the names of the types. -/
theorem passes_definition {other : OverrideKind} (different : kind ≠ other) :
    Passes (definition kind.fallback) given ('\n' :: definition other.fallback) := by
  have differs : ∀ kind ∈ OverrideKind.all, ∀ other ∈ OverrideKind.all, kind ≠ other →
      ∀ tail ∈ ('\n' :: definition other.fallback).tails, tail ≠ [] →
        differ (definition kind.fallback) tail = true := by
    decide +kernel
  exact .of_differ (differs kind kind.mem_all other other.mem_all different)

theorem passes_stampLine (instant : Instant) :
    Passes (definition kind.fallback) given (stampLine instant) := by
  have stamp : '/' ∉ instant.stamp := by
    intro member
    exact absurd (Instant.mem_stamp member) (by decide)
  exact ((passes_comment (by simp [comments])).append (passes_of_slash_not_mem stamp)).append
    (passes_of_slash_not_mem (by decide))

theorem passes_countLine (candidates : List Candidate) :
    Passes (definition kind.fallback) given (countLine candidates) := by
  have digits : ∀ value : Nat, '/' ∉ Nat.toDigits 10 value := by
    intro value member
    exact absurd (Nat.isDigit_of_mem_toDigits (by decide) (by decide) member) (by decide)
  have written : countLine candidates = "// Source: ".toList ++
      Nat.toDigits 10 candidates.length ++ " encodable declaration(s) from ".toList ++
      Nat.toDigits 10 (sortedDistinct (candidates.map Candidate.module)).length ++
      " module(s)\n".toList := rfl
  rw [written]
  exact ((((passes_comment (by simp [comments])).append
    (passes_of_slash_not_mem (digits _))).append
    (passes_of_slash_not_mem (by decide))).append (passes_of_slash_not_mem (digits _))).append
      (passes_of_slash_not_mem (by decide))

theorem slash_not_mem_block {lines : List String} (plain : ∀ line ∈ lines, '/' ∉ line.toList) :
    '/' ∉ block lines := by
  intro member
  rcases List.mem_flatMap.1 member with ⟨line, isLine, inLine⟩
  rcases List.mem_append.1 inLine with inside | isBreak
  · exact plain line isLine inside
  · exact absurd isBreak (by decide)

theorem passes_importSection
    (named : ∀ id ∈ aggregation.importedIds, IsIdentifier id.name ∧ IsModuleName id.module) :
    Passes (definition kind.fallback) given (importSection aggregation) := by
  have standard : ∀ line ∈ standardLines, '/' ∉ line.toList := by
    decide
  rw [importSection_eq_block]
  apply passes_of_slash_not_mem
  apply slash_not_mem_block
  intro line member
  rw [List.mem_append, List.mem_cons, List.mem_append, List.mem_singleton] at member
  rcases member with isStandard | rfl | isImport | rfl
  · exact standard line isStandard
  · decide
  · exact mark_not_mem_of_mem_importLines named isImport (by decide)
  · decide

theorem passes_mapSection (stands : settings.Spells (definition kind.fallback) → given) :
    Passes (definition kind.fallback) given (mapSection settings) := by
  have written : mapSection settings = "pub type EncodableMap = ".toList ++
      (settings.mapType.toList ++ block [";", "",
        "pub type EncodableFactory = fn(EncodableMap) -> Box<dyn Any + Send>;", ""]) :=
    List.append_assoc _ _ _
  rw [written]
  apply Passes.append
  · exact passes_of_slash_not_mem (by decide)
  · exact passes_setting (by simp [settingEnds]) fun inMapType => stands (Or.inl inMapType)

theorem slash_not_mem_of_mem_accessorLines {converter : Converter} {line : String}
    (plainType : '/' ∉ converter.typeName.toList) (plainValue : '/' ∉ converter.value.toList)
    (isLine : line ∈ kind.accessorLines converter) : '/' ∉ line.toList := by
  have literals : ∀ literal ∈ ["    pub fn ", "(&self) -> ", " \x7b", "        ", "    \x7d"],
      '/' ∉ literal.toList := by
    decide
  have plainName : '/' ∉ kind.accessor.toList := by
    cases kind <;> decide
  intro inside
  simp only [OverrideKind.accessorLines, List.mem_cons, List.not_mem_nil, or_false] at isLine
  rcases isLine with rfl | rfl | rfl
  · simp only [String.toList_append, List.mem_append] at inside
    rcases inside with (((start | inName) | middle) | inType) | finish
    · exact literals _ (by decide) start
    · exact plainName inName
    · exact literals _ (by decide) middle
    · exact plainType inType
    · exact literals _ (by decide) finish
  · rw [String.toList_append, List.mem_append] at inside
    rcases inside with indent | inValue
    · exact literals _ (by decide) indent
    · exact plainValue inValue
  · exact literals _ (by decide) inside

theorem slash_not_mem_converter
    (named : ∀ id ∈ aggregation.importedIds, IsIdentifier id.name ∧ IsModuleName id.module)
    (kind : OverrideKind) : '/' ∉ (aggregation.converter kind).typeName.toList ∧
      '/' ∉ (aggregation.converter kind).value.toList := by
  rcases held : aggregation.override? kind with _ | binding
  · have plain : '/' ∉ kind.fallback.toList := by
      cases kind <;> decide
    rw [Aggregation.converter, held, Converter.ofOverride]
    exact ⟨plain, plain⟩
  · have needed : aggregation.Needs ⟨binding.name, binding.module⟩ :=
      Or.inr ⟨kind, binding, held, rfl, rfl⟩
    have plain : '/' ∉ binding.name.toList :=
      (named _ (Aggregation.mem_importedIds.2 needed)).1.mark_not_mem (by decide)
    rw [Aggregation.converter, held, Converter.ofOverride]
    refine ⟨plain, ?_⟩
    rw [String.toList_append, List.mem_append]
    rintro (inName | inLiteral)
    · exact plain inName
    · exact absurd inLiteral (by decide)

theorem passes_codecSection
    (named : ∀ id ∈ aggregation.importedIds, IsIdentifier id.name ∧ IsModuleName id.module)
    (stands : settings.Spells (definition kind.fallback) → given) :
    Passes (definition kind.fallback) given (codecSection settings aggregation) := by
  have inName : definition kind.fallback <:+: settings.codecName.toList → given :=
    fun spelled => stands (Or.inr (Or.inl spelled))
  have returned : ∀ line ∈ accessorLines aggregation ++ [""], '/' ∉ line.toList := by
    have encoder := slash_not_mem_converter named .serializer
    have decoder := slash_not_mem_converter named .deserializer
    intro line member
    simp only [accessorLines, List.mem_append, List.mem_cons, List.not_mem_nil, or_false] at member
    rcases member with ((isEncoder | rfl | isDecoder) | rfl) | rfl
    · exact slash_not_mem_of_mem_accessorLines encoder.1 encoder.2 isEncoder
    · decide
    · exact slash_not_mem_of_mem_accessorLines decoder.1 decoder.2 isDecoder
    · decide
    · decide
  rw [codecSection_eq]
  apply Passes.append
  · apply Passes.append
    · apply Passes.append
      · exact passes_comment (by simp [comments])
      · apply Passes.append
        · exact passes_of_slash_not_mem (by decide)
        · exact passes_setting (by simp [settingEnds]) inName
    · apply Passes.append
      · exact passes_of_slash_not_mem (by decide)
      · exact passes_setting (by simp [settingEnds]) inName
  · exact passes_of_slash_not_mem (slash_not_mem_block returned)

theorem passes_insertStatement {candidate : Candidate} (plainName : '/' ∉ candidate.name.toList)
    (stands : settings.Spells (definition kind.fallback) → given) :
    Passes (definition kind.fallback) given (insertStatement settings candidate) := by
  rcases definition_eq kind.fallback with ⟨more, whole⟩
  have written : insertStatement settings candidate = "    factories.insert(".toList ++
      quotedCharacters false candidate.key.toList ++ ", |map| Box::new(".toList ++
      candidate.name.toList ++ "::".toList ++ (settings.deserializeConstructor.toList ++
        "(map)) as Box<dyn Any + Send>);".toList) :=
    List.append_assoc _ _ _
  rw [written]
  apply Passes.append
  · apply Passes.append
    · apply Passes.append
      · apply Passes.append
        · apply Passes.append
          · exact passes_of_slash_not_mem (by decide)
          · exact .quotedCharacters whole (by decide) false _
        · exact passes_of_slash_not_mem (by decide)
      · exact passes_of_slash_not_mem plainName
    · exact passes_of_slash_not_mem (by decide)
  · exact passes_setting (by simp [settingEnds]) fun inConstructor =>
      stands (Or.inr (Or.inr inConstructor))

theorem passes_factorySection {candidates : List Candidate}
    (plainNames : ∀ candidate ∈ candidates, '/' ∉ candidate.name.toList)
    (stands : settings.Spells (definition kind.fallback) → given) :
    Passes (definition kind.fallback) given (factorySection settings candidates) := by
  have statements : Passes (definition kind.fallback) given
      (candidates.flatMap fun candidate => '\n' :: insertStatement settings candidate) := by
    apply Passes.flatMap
    intro candidate member
    have lineBreak : Passes (definition kind.fallback) given ['\n'] :=
      passes_of_slash_not_mem (by decide)
    exact lineBreak.append (passes_insertStatement (plainNames candidate member) stands)
  rw [factorySection]
  apply Passes.append
  · apply Passes.append
    · apply Passes.append
      · exact passes_of_slash_not_mem (by decide)
      · exact passes_of_slash_not_mem (by decide)
    · exact statements
  · exact passes_of_slash_not_mem (by decide)

theorem passes_instanceSection (stands : settings.Spells (definition kind.fallback) → given) :
    Passes (definition kind.fallback) given (instanceSection settings) := by
  have inName : definition kind.fallback <:+: settings.codecName.toList → given :=
    fun spelled => stands (Or.inr (Or.inl spelled))
  rw [instanceSection_eq]
  apply Passes.append
  · apply Passes.append
    · exact passes_of_slash_not_mem (by decide)
    · exact passes_of_slash_not_mem (slash_not_mem_upperSnake _)
  apply Passes.append
  · apply Passes.append
    · exact passes_of_slash_not_mem (by decide)
    · exact passes_setting (by simp [settingEnds]) inName
  · exact passes_setting (by simp [settingEnds]) inName

/-- What is written behind the statement for the codec, where an override is held. -/
theorem passes_fallbackSection {other : OverrideKind} {held : Option OverrideBinding}
    (isHeld : kind = other → held.isSome = true) :
    Passes (definition kind.fallback) given (fallbackSection held other.fallback) := by
  rcases held with _ | binding
  · apply passes_definition
    intro same
    cases isHeld same
  · exact .nil

/-- Where an override is held, no definition of its stand-in occurs that no setting spells. -/
theorem passes_text
    (named : ∀ id ∈ aggregation.importedIds, IsIdentifier id.name ∧ IsModuleName id.module)
    (held : (aggregation.override? kind).isSome = true)
    (stands : settings.Spells (definition kind.fallback) → given) (instant : Instant) :
    Passes (definition kind.fallback) given (text settings aggregation instant) := by
  have plainNames : ∀ candidate ∈ Candidate.sorted aggregation.candidates,
      '/' ∉ candidate.name.toList := by
    intro candidate member
    have needed : aggregation.Needs candidate.id :=
      Or.inl ⟨candidate, List.mem_mergeSort.1 member, rfl⟩
    exact (named _ (Aggregation.mem_importedIds.2 needed)).1.mark_not_mem (by decide)
  have encoder : Passes (definition kind.fallback) given
      (fallbackSection aggregation.serializer OverrideKind.serializer.fallback) :=
    passes_fallbackSection fun same => by rwa [same] at held
  have decoder : Passes (definition kind.fallback) given
      (fallbackSection aggregation.deserializer OverrideKind.deserializer.fallback) :=
    passes_fallbackSection fun same => by rwa [same] at held
  have header : Passes (definition kind.fallback) given (markerLine ++ stampLine instant) :=
    (passes_comment (by simp [comments])).append (passes_stampLine instant)
  exact header.append <| (((((((passes_countLine _).append (passes_importSection named)).append
    (passes_mapSection stands)).append (passes_codecSection named stands)).append
    (passes_factorySection plainNames stands)).append (passes_instanceSection stands)).append
    encoder).append decoder

end Passes

section Occurrence

variable {settings : ArtifactSettings} {aggregation : Aggregation}

theorem implementation_infix_text (settings : ArtifactSettings) (aggregation : Aggregation)
    (instant : Instant) :
    block (("impl " ++ settings.codecName ++ " \x7b") ::
      (codecMethods.tail ++ accessorLines aggregation)) <:+: text settings aggregation instant := by
  have within : block (("impl " ++ settings.codecName ++ " \x7b") ::
      (codecMethods.tail ++ accessorLines aggregation)) <:+: codecSection settings aggregation := by
    rw [codecSection_eq_block]
    exact List.infix_append _ _ _
  exact infix_text within (by simp [sections])

theorem fallbackSections_eq (aggregation : Aggregation) :
    fallbackSection aggregation.serializer passThroughEncoder ++
        fallbackSection aggregation.deserializer passThroughDecoder =
      (OverrideKind.all.filter fun kind => (aggregation.override? kind).isNone).flatMap
        fun kind => '\n' :: definition kind.fallback := by
  have encoder : (aggregation.override? .serializer).isNone = aggregation.serializer.isNone := rfl
  have decoder : (aggregation.override? .deserializer).isNone = aggregation.deserializer.isNone :=
    rfl
  rw [fallbackSection_eq, fallbackSection_eq, OverrideKind.all, List.filter_cons, List.filter_cons,
    List.filter_nil, encoder, decoder]
  cases aggregation.serializer.isNone <;> cases aggregation.deserializer.isNone <;>
    simp [OverrideKind.fallback]

/-- The converters that are defined stand behind the statement for the codec. -/
theorem text_eq_append_definitions (settings : ArtifactSettings) (aggregation : Aggregation)
    (instant : Instant) :
    ∃ above, text settings aggregation instant = above ++
      (block ["::new(encodable_factories()));"] ++
        (OverrideKind.all.filter fun kind => (aggregation.override? kind).isNone).flatMap
          fun kind => '\n' :: definition kind.fallback) := by
  obtain ⟨before, instanceEnds⟩ : ∃ before, instanceSection settings =
      before ++ block ["::new(encodable_factories()));"] := by
    rw [instanceSection_eq, ← List.append_assoc, ← List.append_assoc]
    exact ⟨_, rfl⟩
  have written : text settings aggregation instant = markerLine ++ stampLine instant ++
      (countLine (Candidate.sorted aggregation.candidates) ++ importSection aggregation ++
        mapSection settings ++ codecSection settings aggregation ++
        factorySection settings (Candidate.sorted aggregation.candidates) ++
        instanceSection settings ++ fallbackSection aggregation.serializer passThroughEncoder ++
        fallbackSection aggregation.deserializer passThroughDecoder) := rfl
  rw [written, List.append_assoc _ (fallbackSection _ _), fallbackSections_eq, instanceEnds,
    ← List.append_assoc _ before, List.append_assoc _ (block _), ← List.append_assoc]
  exact ⟨_, rfl⟩

/-- The settings are written into the text as they are. -/
theorem infix_text_of_spells {part : List Char} (nonempty : aggregation.candidates ≠ [])
    (instant : Instant) (spelled : settings.Spells part) :
    part <:+: text settings aggregation instant := by
  rcases spelled with inMapType | inCodecName | inConstructor
  · have within : settings.mapType.toList <:+: mapSection settings :=
      List.infix_append_of_infix_left (List.suffix_append _ _).isInfix
    exact infix_text (inMapType.trans within) (by simp [sections])
  · have within : settings.codecName.toList <:+: instanceSection settings := by
      rw [instanceSection_eq]
      apply List.infix_append_of_infix_right
      apply List.infix_append_of_infix_right
      exact (List.prefix_append _ _).isInfix
    exact infix_text (inCodecName.trans within) (by simp [sections])
  · rcases List.exists_mem_of_ne_nil _ nonempty with ⟨candidate, member⟩
    have within : settings.deserializeConstructor.toList <:+:
        '\n' :: insertStatement settings candidate ++ ['\n'] := by
      apply List.infix_append_of_infix_left
      apply List.infix_cons
      apply List.infix_append_of_infix_left
      exact (List.suffix_append _ _).isInfix
    exact inConstructor.trans (within.trans (insertStatement_infix_text member))

/-- A stand-in is defined where no override is held, and what a setting spells is in the text. -/
theorem definition_infix_text_iff (kind : OverrideKind) (instant : Instant)
    (nonempty : aggregation.candidates ≠ [])
    (named : ∀ id ∈ aggregation.importedIds, IsIdentifier id.name ∧ IsModuleName id.module) :
    definition kind.fallback <:+: text settings aggregation instant ↔
      aggregation.override? kind = none ∨ settings.Spells (definition kind.fallback) := by
  constructor
  · intro occurs
    rcases held : aggregation.override? kind with _ | binding
    · exact Or.inl rfl
    · have isHeld : (aggregation.override? kind).isSome = true := by
        rw [held]
        rfl
      rw [← List.append_nil (text settings aggregation instant)] at occurs
      rcases passes_text named isHeld id instant [] occurs with spelled | nothing
      · exact Or.inr spelled
      · rcases definition_eq kind.fallback with ⟨more, whole⟩
        rw [whole] at nothing
        exact absurd (List.infix_nil.1 nothing) (by simp)
  · rintro (missing | spelled)
    · rcases text_eq_append_definitions settings aggregation instant with ⟨above, whole⟩
      have isMissing : kind ∈ OverrideKind.all.filter fun kind =>
          (aggregation.override? kind).isNone := by
        rw [List.mem_filter, missing]
        exact ⟨kind.mem_all, rfl⟩
      rw [whole]
      apply List.infix_append_of_infix_right
      apply List.infix_append_of_infix_right
      exact (List.suffix_cons _ _).isInfix.trans
        (List.infix_of_mem_flatten (List.mem_map_of_mem isMissing))
    · exact infix_text_of_spells nonempty instant spelled

end Occurrence

end ArtifactSource

/-- Whether an artifact returns and defines converters as the overrides ask for. -/
structure Artifact.ConvertsWith (artifact : Artifact) (settings : ArtifactSettings)
    (aggregation : Aggregation) (returned : OverrideKind → ArtifactSource.Converter) : Prop where
  /-- Between the braces of the codec, its functions return the two converters. -/
  accessors : ∃ methods : List String,
    (∀ line ∈ methods, line = "" ∨ "    ".toList <+: line.toList) ∧
      ArtifactSource.block (("impl " ++ settings.codecName ++ " \x7b") :: (methods ++
        (OverrideKind.serializer.accessorLines (returned .serializer) ++
          "" :: OverrideKind.deserializer.accessorLines (returned .deserializer) ++ ["\x7d"]))) <:+:
        artifact.source.toList
  overridden : ∀ kind binding, aggregation.override? kind = some binding →
    returned kind = ⟨binding.name, binding.name ++ "::default()"⟩
  standsIn : ∀ kind, aggregation.override? kind = none →
    returned kind = ⟨kind.fallback, kind.fallback⟩
  /-- Whatever the settings are, the last thing in the text is what is defined to stand in. -/
  defined : ∃ above, artifact.source.toList = above ++
    (ArtifactSource.block ["::new(encodable_factories()));"] ++
      (OverrideKind.all.filter fun kind => (aggregation.override? kind).isNone).flatMap
        fun kind => '\n' :: ArtifactSource.definition kind.fallback)
  definition : ∀ kind, ArtifactSource.definition kind.fallback <:+: artifact.source.toList ↔
    aggregation.override? kind = none ∨
      settings.Spells (ArtifactSource.definition kind.fallback)

/-- An artifact takes and defines what it needs, and nothing else. The lines behind the imports from
the standard library name each candidate and each override once, in the order of modules and names.
The codec returns the type of an override where one is held, and otherwise a type that changes
nothing. Such a type is defined in the text exactly where it is returned, or where the settings
spell its definition themselves. -/
theorem Artifact.takes_what_it_needs {settings : ArtifactSettings} {aggregation : Aggregation}
    {instant : Instant} {artifact : Artifact}
    (rendered : render settings aggregation instant = .ok artifact)
    (named : ∀ id, aggregation.Needs id → IsIdentifier id.name ∧ IsModuleName id.module) :
    ∃ imports returned,
      (ImportLine.linesOf artifact.source.toList).map ImportLine.read? = imports.map some ∧
      ImportLine.Take imports aggregation.Needs ∧
      artifact.ConvertsWith settings aggregation returned := by
  rcases render_eq_ok.1 rendered with ⟨notEmpty, _, same⟩
  have source : artifact.source.toList = ArtifactSource.text settings aggregation instant := by
    rw [same, String.toList_ofList]
  have nonempty : aggregation.candidates ≠ [] := by
    intro empty
    rw [Aggregation.isEmpty, empty] at notEmpty
    cases notEmpty
  have namedIds : ∀ id ∈ aggregation.importedIds, IsIdentifier id.name ∧ IsModuleName id.module :=
    fun id member => named id (Aggregation.mem_importedIds.1 member)
  have take : ImportLine.Take (importsByModule aggregation.importedIds) aggregation.Needs := by
    have byIds := take_importsByModule aggregation.importedIds
    exact { byIds with
      exactly := fun id => (byIds.exactly id).trans Aggregation.mem_importedIds }
  refine ⟨importsByModule aggregation.importedIds, aggregation.converter, ?_, take, ?_⟩
  · rw [source]
    exact ArtifactSource.map_read?_linesOf_text namedIds settings instant
  · constructor
    · rw [source]
      refine ⟨ArtifactSource.codecMethods.tail, ?_,
        ArtifactSource.implementation_infix_text settings aggregation instant⟩
      decide
    · intro kind binding held
      rw [Aggregation.converter, held, ArtifactSource.Converter.ofOverride]
    · intro kind missing
      rw [Aggregation.converter, missing, ArtifactSource.Converter.ofOverride]
    · rw [source]
      exact ArtifactSource.text_eq_append_definitions settings aggregation instant
    · intro kind
      rw [source]
      exact ArtifactSource.definition_infix_text_iff kind instant nonempty namedIds

namespace Sample

theorem named_misleading (id : DeclarationId) (needed : misleadingAggregation.Needs id) :
    IsIdentifier id.name ∧ IsModuleName id.module := by
  have identifiers : ∀ name ∈ ["Alpha", "Beta", "Packer", "crate", "a", "codec"],
      IsIdentifier name := by
    have plain : ∀ name ∈ ["Alpha", "Beta", "Packer", "crate", "a", "codec"],
        name ≠ "" ∧ name.toList.all Text.isIdentifierContinue = true := by
      decide
    intro name member
    exact ⟨(plain name member).1, fun character inName =>
      Or.inl (List.all_eq_true.1 (plain name member).2 character inName)⟩
  have modules : ∀ module ∈ ["crate::a", "crate::codec"], IsModuleName module := by
    intro module member
    rw [List.mem_cons, List.mem_singleton] at member
    rcases member with rfl | rfl
    · exact ⟨["crate", "a"], fun segment isSegment => identifiers segment (by grind), rfl⟩
    · exact ⟨["crate", "codec"], fun segment isSegment => identifiers segment (by grind), rfl⟩
  have ids : ∀ id ∈ misleadingAggregation.importedIds,
      id.name ∈ ["Alpha", "Beta", "Packer", "crate", "a", "codec"] ∧
        id.module ∈ ["crate::a", "crate::codec"] := by
    decide
  rcases ids id (Aggregation.mem_importedIds.2 needed) with ⟨isName, isModule⟩
  exact ⟨identifiers _ isName, modules _ isModule⟩

/-- Two modules are imported from, of which one holds an override that is a candidate as well. -/
theorem takes_what_it_needs_misleading :
    ∃ artifact, Artifact.render misleadingSettings misleadingAggregation ⟨0, 0⟩ = .ok artifact ∧
      (∀ id, misleadingAggregation.Needs id → IsIdentifier id.name ∧ IsModuleName id.module) ∧
      ∃ imports returned,
        (ImportLine.linesOf artifact.source.toList).map ImportLine.read? = imports.map some ∧
        ImportLine.Take imports misleadingAggregation.Needs ∧
        artifact.ConvertsWith misleadingSettings misleadingAggregation returned := by
  rcases render_misleading with ⟨artifact, rendered⟩
  exact ⟨artifact, rendered, named_misleading,
    Artifact.takes_what_it_needs rendered named_misleading⟩

/-- A type of arrays whose length is computed behind the definition of a stand-in. -/
def spellingSettings : ArtifactSettings :=
  { ArtifactSettings.standard with
    mapType := "[u8; \x7b\n" ++
      String.ofList (ArtifactSource.definition OverrideKind.serializer.fallback) ++ "0 \x7d]" }

/-- A type that defines the stand-in for the encoder puts it into the text, beside an override. -/
theorem definition_beside_override :
    ∃ artifact, Artifact.render spellingSettings misleadingAggregation ⟨0, 0⟩ = .ok artifact ∧
      (∀ id, misleadingAggregation.Needs id → IsIdentifier id.name ∧ IsModuleName id.module) ∧
      ¬(ArtifactSource.definition OverrideKind.serializer.fallback <:+: artifact.source.toList ↔
        misleadingAggregation.override? .serializer = none) := by
  have spelling : spellingSettings.mapType.toList = "[u8; \x7b\n".toList ++
      ArtifactSource.definition OverrideKind.serializer.fallback ++ "0 \x7d]".toList := by
    have inside : (String.ofList (ArtifactSource.definition
        OverrideKind.serializer.fallback)).toList = _ := String.toList_ofList
    rw [spellingSettings, String.toList_append, String.toList_append, inside]
  have spelled : spellingSettings.Spells
      (ArtifactSource.definition OverrideKind.serializer.fallback) := by
    refine Or.inl ⟨"[u8; \x7b\n".toList, "0 \x7d]".toList, ?_⟩
    rw [spelling]
  refine ⟨_, Artifact.render_eq_ok.2 ⟨rfl, ?_, rfl⟩, named_misleading, ?_⟩
  · unfold ArtifactSource.text ArtifactSource.body ArtifactSource.mapSection
    rw [sorted_misleading, spelling]
    decide +kernel
  · rw [String.toList_ofList, ArtifactSource.definition_infix_text_iff _ _ (by decide)
      fun id member => named_misleading id (Aggregation.mem_importedIds.1 member)]
    intro same
    exact absurd (same.1 (Or.inr spelled)) (by decide)

end Sample

end Registrar
