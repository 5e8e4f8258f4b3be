import Registrar.Proofs.Artifact.Registrations
import Registrar.Proofs.Contract

/-!
# Keys from one source text to the other

The key that a marker names in a source file is written into the artifact as a string literal, which
stands on one line, ends where it is meant to end and denotes the same key, whatever its characters.
-/

namespace Registrar

/-- Whether a literal stands on one line, is read from its opening quote up to a comma that comes
after it, whatever is behind the comma, and denotes a key. -/
structure SpellsKey (literal : List Char) (key : String) : Prop where
  opens : literal.head? = some '"'
  visible : ∀ character ∈ literal, Text.isPrintable character = true
  oneLine : '\n' ∉ literal ∧ '\r' ∉ literal
  ends : ∀ others, Source.Lexeme.leaf? (literal ++ ',' :: others) =
    some (.literal (String.ofList literal), ',' :: others)
  denotes : Source.Literal.stringValue? literal = some key.toList

/-- Whether a text has a statement on a line of its own that registers a factory under a key. -/
def RegistersKey (source : List Char) (key factory : String) : Prop :=
  ∃ before literal after, SpellsKey literal key ∧
    source = before ++ '\n' :: ("    factories.insert(".toList ++ literal ++
      ", |map| Box::new(".toList ++ factory.toList ++
      "(map)) as Box<dyn Any + Send>);".toList) ++ '\n' :: after

/-- The literal that is written for a key spells it. -/
theorem spellsKey_quotedCharacters (key : String) :
    SpellsKey (Text.quotedCharacters false key.toList) key := by
  have visible : ∀ character ∈ Text.quotedCharacters false key.toList,
      Text.isPrintable character = true := fun _ => Text.isPrintable_of_mem_quotedCharacters
  exact {
    opens := rfl
    visible := visible
    oneLine := ⟨fun member => absurd (visible _ member) (by decide),
      fun member => absurd (visible _ member) (by decide)⟩
    ends := by
      intro others
      have noSuffix : Source.Literal.afterIdentifier? (',' :: others) = none := by
        rw [Source.Literal.afterIdentifier?, if_neg (by decide)]
      rw [Source.Lexeme.leaf?, Source.Literal.after?_quotedCharacters false key.toList noSuffix]
      simp
    denotes := Source.Literal.stringValue?_quotedCharacters false key.toList }

namespace ArtifactSource

/-- The text has the statement of every candidate, with a literal that spells its key. -/
theorem registersKey_text {settings : ArtifactSettings} {aggregation : Aggregation}
    {candidate : Candidate} (member : candidate ∈ aggregation.candidates) (instant : Instant) :
    RegistersKey (text settings aggregation instant) candidate.key
      (candidate.name ++ "::" ++ settings.deserializeConstructor) := by
  rcases @insertStatement_infix_text settings aggregation candidate instant member with
    ⟨before, after, split⟩
  refine ⟨before, Text.quotedCharacters false candidate.key.toList, after,
    spellsKey_quotedCharacters candidate.key, ?_⟩
  unfold insertStatement at split
  simp only [String.toList_append, List.append_assoc, List.cons_append,
    List.nil_append] at split ⊢
  exact split.symm

end ArtifactSource

/-- Keys survive. A declaration that keeps the rest of the contract and whose marker holds a literal
that denotes a key, in any form, qualifies with that key; and wherever it is among the candidates,
the text of the artifact registers it with a literal that spells the key, or its name if the key is
empty. -/
theorem Artifact.keys_survive {names : ContractNames} {module : String}
    {declaration : MarkedDeclaration} {marker : Source.Attribute} {spelling key : String}
    (marked : declaration.encodable = some marker)
    (carries : MarkerArgument.Carries spelling marker.argument)
    (denotes : MarkerArgument.stringText? spelling = some key)
    (conforms : ∀ part, part ≠ .marker → names.Keeps declaration marker part) :
    names.judge module declaration = .qualifies ⟨declaration.name, module, key⟩ ∧
      ∀ settings aggregation instant artifact,
        ⟨declaration.name, module, key⟩ ∈ aggregation.candidates →
          render settings aggregation instant = .ok artifact →
            RegistersKey artifact.source.toList (if key = "" then declaration.name else key)
              (declaration.name ++ "::" ++ settings.deserializeConstructor) := by
  have namesKey : MarkerArgument.NamesKey marker.argument key := .carried carries denotes
  constructor
  · rw [ContractNames.judge_eq_qualifies_iff marked]
    refine ⟨?_, rfl, rfl, namesKey⟩
    intro part
    by_cases isMarker : part = .marker
    · rw [isMarker]
      exact ⟨key, namesKey⟩
    · exact conforms part isMarker
  · intro settings aggregation instant artifact member rendered
    rcases render_eq_ok.1 rendered with ⟨_, _, rfl⟩
    have registers := @ArtifactSource.registersKey_text settings _ _ member instant
    rw [String.toList_ofList]
    simpa only [Candidate.key, registryKey, String.isEmpty_iff] using registers

namespace Sample

/-- A marker that names the key of the first contestant with an escape. -/
def escapedMarker : Source.Attribute :=
  ⟨false, .ofWord "encodable",
    .list .parenthesis [.word "name", .mark '=' false, .literal "\"G\\x61mma\""]⟩

/-- The declaration of the first contestant. -/
def firstContestant : MarkedDeclaration where
  name := "Alpha"
  kind := .struct
  encodable := some escapedMarker
  serializer := false
  deserializer := false
  generics := none
  functions := [⟨"to_map", true, [], some "HashMap<String,Value>"⟩,
    ⟨"from_map", false, ["HashMap<String,Value>"], some "Self"⟩]

theorem keeps_firstContestant (part : ContractPart) (others : part ≠ .marker) :
    ContractNames.standard.Keeps firstContestant escapedMarker part := by
  rw [← ContractNames.violation?_eq_none_iff]
  cases part with
  | declaration => rfl
  | serialize => decide
  | deserialize => decide
  | marker => exact absurd rfl others

/-- The first contestant is registered under the key that its marker names. -/
theorem keys_survive_contested :
    firstContestant.encodable = some escapedMarker ∧
      MarkerArgument.Carries "\"G\\x61mma\"" escapedMarker.argument ∧
        MarkerArgument.stringText? "\"G\\x61mma\"" = some "Gamma" ∧
          ∃ artifact,
            Artifact.render .standard (Aggregation.ofFiles contested) ⟨0, 0⟩ = .ok artifact ∧
              RegistersKey artifact.source.toList "Gamma" "Alpha::from_map" := by
  have carries : MarkerArgument.Carries "\"G\\x61mma\"" escapedMarker.argument :=
    .named .parenthesis false
  have denotes : MarkerArgument.stringText? "\"G\\x61mma\"" = some "Gamma" := by
    decide +kernel
  have member : ⟨"Alpha", "crate", "Gamma"⟩ ∈ (Aggregation.ofFiles contested).candidates := by
    decide
  have survives := (@Artifact.keys_survive .standard "crate" firstContestant escapedMarker _ _ rfl
    carries denotes keeps_firstContestant).2 _ _ _ _ member render_contested
  rw [if_neg (by decide)] at survives
  exact ⟨rfl, carries, denotes, _, render_contested, survives⟩

end Sample

end Registrar
