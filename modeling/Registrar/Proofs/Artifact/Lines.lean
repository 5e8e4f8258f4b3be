import Registrar.Proofs.Artifact.Names

/-!
# What the text of the artifact says

The text imports and defines what is in scope in the artifact, line by line. Its factories and its
accessors refer to declarations by nothing but their names.
-/

namespace Registrar

namespace ArtifactSource

variable {settings : ArtifactSettings} {aggregation : Aggregation}

/-- Whether a text has a line, other than its first one, that starts in the given way. -/
def HasLine (source : List Char) (start : String) : Prop := '\n' :: start.toList <:+: source

/-- Whether a text brings into scope what is in scope in the artifact, and refers to declarations by
their names alone. -/
structure Shows (source : List Char) (settings : ArtifactSettings) (aggregation : Aggregation) :
    Prop where
  imports : ∀ line ∈ imports aggregation, HasLine source (importLine line.1 line.2)
  aliases : ∀ name ∈ ["EncodableMap", "EncodableFactory"],
    HasLine source ("pub type " ++ name ++ " = ")
  codec : HasLine source ("pub struct " ++ settings.codecName ++ " \x7b")
  converters : ∀ name ∈ fallbackNames aggregation, HasLine source ("pub struct " ++ name ++ ";")
  factories : ∀ candidate ∈ aggregation.candidates,
    '\n' :: insertStatement settings candidate <:+: source
  accessors : ∀ binding ∈ aggregation.serializer.toList ++ aggregation.deserializer.toList,
    HasLine source ("        " ++ (binding.name ++ "::default()"))

/-- The sections of the artifact below its stamp. -/
def sections (settings : ArtifactSettings) (aggregation : Aggregation) : List (List Char) :=
  let candidates := Candidate.sorted aggregation.candidates
  [countLine candidates, importSection aggregation, mapSection settings,
    codecSection settings aggregation, factorySection settings candidates,
    instanceSection settings, fallbackSection aggregation.serializer passThroughEncoder,
    fallbackSection aggregation.deserializer passThroughDecoder]

theorem infix_text {part whole : List Char} {instant : Instant} (within : part <:+: whole)
    (member : whole ∈ sections settings aggregation) :
    part <:+: text settings aggregation instant := by
  have joined : body settings aggregation = (sections settings aggregation).flatten := by
    simp [body, sections]
  rw [text, joined]
  exact List.infix_append_of_infix_right (within.trans (List.infix_of_mem_flatten member))

theorem block_cons (line : String) (others : List String) :
    block (line :: others) = line.toList ++ '\n' :: block others := by
  rw [block, List.flatMap_cons, List.append_assoc]
  rfl

theorem infix_flatMap_lines {line : String} {lines : List String} (member : line ∈ lines) :
    HasLine (lines.flatMap fun line => '\n' :: line.toList) line :=
  List.infix_of_mem_flatten (List.mem_map_of_mem member)

/-- The breaks of lines can be told from what is before them or from what is behind. -/
theorem flatMap_lines_append (lines : List String) :
    lines.flatMap (fun line => '\n' :: line.toList) ++ ['\n'] = '\n' :: block lines := by
  induction lines with
  | nil => rfl
  | cons line others ih =>
    rw [List.flatMap_cons, List.append_assoc, ih, block_cons]
    rfl

/-- A block has all its lines, but for its first one. -/
theorem hasLine_block {first start : String} {lines : List String} (member : start ∈ lines) :
    HasLine (block (first :: lines)) start := by
  have split : block (first :: lines) =
      first.toList ++ (lines.flatMap (fun line => '\n' :: line.toList) ++ ['\n']) := by
    rw [flatMap_lines_append, block_cons]
  rw [split]
  apply List.infix_append_of_infix_right
  apply List.infix_append_of_infix_left
  exact infix_flatMap_lines member

/-- The imports of the artifact are lines of the section for them. -/
theorem hasLine_importSection {line : String × List String} (member : line ∈ imports aggregation) :
    HasLine (importSection aggregation) (importLine line.1 line.2) := by
  rcases List.mem_append.1 member with standard | declared
  · have lines : ∀ line ∈ standardImports, importLine line.1 line.2 ∈
        ["use std::any::Any;", "use std::collections::HashMap;", "use std::sync::LazyLock;"] := by
      decide
    apply List.infix_append_of_infix_left
    apply List.infix_append_of_infix_left
    exact hasLine_block (lines line standard)
  · apply List.infix_append_of_infix_left
    apply List.infix_append_of_infix_right
    exact infix_flatMap_lines (List.mem_map_of_mem declared)

/-- The line for the type of maps stands behind the blank line that ends the imports. -/
theorem hasLine_mapType (instant : Instant) :
    HasLine (text settings aggregation instant) "pub type EncodableMap = " := by
  have behind : '\n' :: mapSection settings <:+:
      importSection aggregation ++ mapSection settings := by
    rw [importSection, List.append_assoc]
    exact List.infix_append_of_infix_right (List.suffix_cons _ _).isInfix
  have within : importSection aggregation ++ mapSection settings <:+:
      text settings aggregation instant := by
    rw [text, body, List.append_assoc (countLine _)]
    apply List.infix_append_of_infix_right
    apply List.infix_append_of_infix_left
    apply List.infix_append_of_infix_left
    apply List.infix_append_of_infix_left
    apply List.infix_append_of_infix_left
    apply List.infix_append_of_infix_left
    exact List.infix_append_right
  have starts : "pub type EncodableMap = ".toList <+: mapSection settings :=
    (List.prefix_append _ settings.mapType.toList).trans (List.prefix_append _ _)
  exact (List.cons_prefix_cons.2 ⟨rfl, starts⟩).isInfix.trans (behind.trans within)

theorem hasLine_factoryType :
    HasLine (mapSection settings) "pub type EncodableFactory = " := by
  have line : "pub type EncodableFactory = fn(EncodableMap) -> Box<dyn Any + Send>;" ∈
      ["", "pub type EncodableFactory = fn(EncodableMap) -> Box<dyn Any + Send>;", ""] := by simp
  have starts : "pub type EncodableFactory = ".toList <+:
      "pub type EncodableFactory = fn(EncodableMap) -> Box<dyn Any + Send>;".toList :=
    ⟨"fn(EncodableMap) -> Box<dyn Any + Send>;".toList, by simp⟩
  apply List.infix_append_of_infix_right
  exact (List.cons_prefix_cons.2 ⟨rfl, starts⟩).isInfix.trans (hasLine_block line)

theorem hasLine_codecSection :
    HasLine (codecSection settings aggregation)
      ("pub struct " ++ settings.codecName ++ " \x7b") := by
  apply List.infix_append_of_infix_left
  apply List.infix_append_of_infix_left
  apply List.infix_append_of_infix_left
  apply List.infix_append_of_infix_left
  exact hasLine_block List.mem_cons_self

theorem hasLine_accessor {name fallback : String} {binding : OverrideBinding} :
    HasLine (accessor name (.ofOverride (some binding) fallback))
      ("        " ++ (binding.name ++ "::default()")) :=
  hasLine_block List.mem_cons_self

/-- The accessors of the codec make what the overrides name. -/
theorem hasLine_default {binding : OverrideBinding}
    (member : binding ∈ aggregation.serializer.toList ++ aggregation.deserializer.toList) :
    HasLine (codecSection settings aggregation)
      ("        " ++ (binding.name ++ "::default()")) := by
  rcases List.mem_append.1 member with serializer | deserializer
  · rw [codecSection, Option.mem_toList.1 serializer]
    apply List.infix_append_of_infix_left
    apply List.infix_append_of_infix_left
    apply List.infix_append_of_infix_left
    apply List.infix_append_of_infix_right
    exact hasLine_accessor
  · rw [codecSection, Option.mem_toList.1 deserializer]
    apply List.infix_append_of_infix_left
    apply List.infix_append_of_infix_right
    exact hasLine_accessor

/-- Lines that are started by a break are followed by one in front of the next line. -/
theorem exists_break_after {α : Type} (line : α → List Char) (others : List α)
    (rest : List Char) :
    ∃ after, others.flatMap (fun other => '\n' :: line other) ++ '\n' :: rest = '\n' :: after := by
  rcases others with _ | ⟨next, others⟩
  · exact ⟨rest, rfl⟩
  · exact ⟨_, rfl⟩

/-- The statement for a candidate is a line of its own. -/
theorem insertStatement_infix_factorySection {candidate : Candidate}
    {candidates : List Candidate} (member : candidate ∈ candidates) :
    '\n' :: insertStatement settings candidate ++ ['\n'] <:+:
      factorySection settings candidates := by
  rcases List.append_of_mem member with ⟨before, others, rfl⟩
  rcases exists_break_after (insertStatement settings) others
    (block ["    factories", "\x7d", ""]) with ⟨after, split⟩
  refine ⟨block ["pub fn encodable_factories() -> HashMap<&'static str, EncodableFactory> \x7b"] ++
    ("    let mut factories: HashMap<&'static str, EncodableFactory> = " ++
      "HashMap::new();").toList ++
    before.flatMap (fun candidate => '\n' :: insertStatement settings candidate), after, ?_⟩
  rw [factorySection, List.flatMap_append, List.flatMap_cons, block_cons "", String.toList_empty,
    List.nil_append]
  simp only [List.append_assoc, List.cons_append, List.nil_append]
  rw [split]

/-- The statement for a candidate is a line of the text. -/
theorem insertStatement_infix_text {candidate : Candidate} {instant : Instant}
    (member : candidate ∈ aggregation.candidates) :
    '\n' :: insertStatement settings candidate ++ ['\n'] <:+:
      text settings aggregation instant := by
  have sorted : candidate ∈ Candidate.sorted aggregation.candidates :=
    List.mem_mergeSort.2 member
  exact infix_text (insertStatement_infix_factorySection sorted) (by simp [sections])

theorem hasLine_fallbackSection (name : String) :
    HasLine (fallbackSection none name) ("pub struct " ++ name ++ ";") :=
  hasLine_block (List.mem_cons_of_mem _ (List.mem_cons_of_mem _ List.mem_cons_self))

theorem fallbackSection_mem_sections {name : String} (member : name ∈ fallbackNames aggregation) :
    fallbackSection none name ∈ sections settings aggregation := by
  rcases List.mem_append.1 member with encoder | decoder
  · rcases held : aggregation.serializer with _ | binding
    · rw [held] at encoder
      rcases List.mem_singleton.1 encoder with rfl
      simp [sections, held]
    · rw [held] at encoder
      cases encoder
  · rcases held : aggregation.deserializer with _ | binding
    · rw [held] at decoder
      rcases List.mem_singleton.1 decoder with rfl
      simp [sections, held]
    · rw [held] at decoder
      cases decoder

theorem shows_text (settings : ArtifactSettings) (aggregation : Aggregation) (instant : Instant) :
    Shows (text settings aggregation instant) settings aggregation := by
  constructor
  · intro line member
    exact infix_text (hasLine_importSection member) (by simp [sections])
  · intro name member
    rcases List.mem_cons.1 member with rfl | member
    · exact hasLine_mapType instant
    · rcases List.mem_singleton.1 member with rfl
      exact infix_text (@hasLine_factoryType settings) (by simp [sections])
  · exact infix_text (@hasLine_codecSection settings aggregation) (by simp [sections])
  · intro name member
    exact infix_text (hasLine_fallbackSection name) (fallbackSection_mem_sections member)
  · intro candidate member
    exact (List.prefix_append _ ['\n']).isInfix.trans (insertStatement_infix_text member)
  · intro binding member
    exact infix_text (@hasLine_default settings aggregation binding member) (by simp [sections])

end ArtifactSource

end Registrar
