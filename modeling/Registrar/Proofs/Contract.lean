import Mathlib.Data.List.Basic
import Mathlib.Data.Option.Basic
import Registrar.Contract
import Registrar.Proofs.Source.Reading

/-!
# What a verdict names

A declaration qualifies exactly when it keeps every part of the contract, and a rejection has one
violation for every part that it breaks, in the order of the parts. What a part asks for is said
here apart from the checks, the forms of a marker that names a key as lists of trees.
-/

namespace Registrar

open Source (Attribute AttributeArgument Delimiter Path Segment TokenTree Tokens)

namespace MarkerArgument

/-- The arguments of a marker that hold nothing but a string literal, alone or as the value of a
name. -/
inductive Carries (spelling : String) : AttributeArgument → Prop
  | list (delimiter : Delimiter) : Carries spelling (.list delimiter [.literal spelling])
  | named (delimiter : Delimiter) (joint : Bool) :
    Carries spelling (.list delimiter [.word "name", .mark '=' joint, .literal spelling])
  | value (tokens : Tokens) : Carries spelling (.value tokens (some spelling))

/-- The key that the argument of a marker names, which is empty where it names none. -/
inductive NamesKey : AttributeArgument → String → Prop
  | absent : NamesKey .absent ""
  | empty (delimiter : Delimiter) : NamesKey (.list delimiter []) ""
  | carried {argument : AttributeArgument} {spelling key : String}
    (carries : Carries spelling argument) (denotes : stringText? spelling = some key) :
    NamesKey argument key

end MarkerArgument

namespace Source.Grammar

open Reader

variable {grammar : Grammar} {tokens rest : Tokens} {path : Path} {segment : Segment}

/-- A path that is a single word is read from that word. -/
theorem eq_word_of_attributePath (read : attributePath tokens = some (path, rest))
    (single : path.only? = some segment) : tokens = .word segment.name :: rest := by
  rcases bind_eq_some read with ⟨_, _, ⟨⟩, chosen⟩
  split at chosen
  · rcases bind_eq_some chosen with ⟨word, middle, taken, ⟨⟩⟩
    rcases single with ⟨⟩
    exact anyWord_eq_some taken
  · rcases bind_eq_some chosen with ⟨leading, middle, separator, segments⟩
    rcases bind_eq_some segments with ⟨first, afterFirst, firstRead, furtherRead⟩
    rcases bind_eq_some furtherRead with ⟨others, afterOthers, repeated, ⟨⟩⟩
    -- A path that is a single word starts without a separator and has no further segments.
    unfold Path.only? at single
    split at single
    · rename_i noLeading noOthers
      rcases single with ⟨⟩
      rcases optionalMark_eq_some separator with marked | ⟨_, rfl⟩
      · exact absurd (marked.symm.trans noLeading) markTokens_ne_nil
      · rcases bind_eq_some firstRead with ⟨_, _, ⟨⟩, admitted⟩
        rcases bind_eq_some admitted with ⟨_, _, required, taken⟩
        rcases (require_eq_some required).2 with rfl
        rcases bind_eq_some taken with ⟨word, _, wordRead, ⟨⟩⟩
        rcases noOthers with ⟨⟩
        rcases anyWord_eq_some wordRead with rfl
        rw [rest_of_repeat_eq_nil repeated]
    · cases single

/-- A value that is a single literal is read from an equals sign and the literal. -/
theorem eq_literal_of_attributeValue {argument : AttributeArgument} {spelling : String}
    (read : attributeValue grammar tokens = some (argument, []))
    (single : ∃ value, argument = .value value (some spelling)) :
    ∃ joint, tokens = [.mark '=' joint, .literal spelling] := by
  rcases single with ⟨value, rfl⟩
  rcases bind_eq_some read with ⟨_, middle, equals, valued⟩
  rcases bind_eq_some valued with ⟨_, _, ⟨⟩, chosen⟩
  dsimp only at chosen
  generalize aloneIs : (if middle.atLiteral then whole literal middle else none) = alone at chosen
  rcases alone with _ | found
  · rcases bind_eq_some chosen with ⟨_, _, _, expressionRead⟩
    rcases bind_eq_some expressionRead with ⟨_, _, _, ⟨⟩⟩
  · rcases bind_eq_some chosen with ⟨_, _, ⟨⟩, same⟩
    injection same with same
    injection same with same _
    injection same with _ spelled
    split at spelled
    · rcases spelled with ⟨⟩
      split at aloneIs
      · rw [whole_eq_some] at aloneIs
        rcases literal_eq_some aloneIs with rfl
        exact exists_joint_of_mark equals
      · cases aloneIs
    · cases spelled

end Source.Grammar

namespace MarkerArgument

open Source.Reader Source.Grammar

variable {argument : AttributeArgument} {content : Tokens} {key : String}

theorem namedText?_eq_some_iff :
    namedText? content = some key ↔ ∃ joint spelling,
      content = [.word "name", .mark '=' joint, .literal spelling] ∧
        stringText? spelling = some key := by
  constructor
  · intro named
    rcases Option.bind_eq_some_iff.1 named with ⟨⟨path, argument⟩, read, chosen⟩
    rcases Option.bind_eq_some_iff.1 chosen with ⟨segment, single, judged⟩
    split at judged
    · rename_i plain
      rw [Bool.and_eq_true, beq_iff_eq] at plain
      rw [whole_eq_some] at read
      rcases bind_eq_some read with ⟨_, middle, pathRead, further⟩
      rcases bind_eq_some further with ⟨_, _, valueRead, ⟨⟩⟩
      unfold valueText? at judged
      split at judged
      · rename_i value spelling
        rcases eq_literal_of_attributeValue valueRead ⟨value, rfl⟩ with ⟨joint, rfl⟩
        rw [eq_word_of_attributePath pathRead single, plain.1]
        exact ⟨joint, spelling, rfl, judged⟩
      · cases judged
    · cases judged
  · rintro ⟨joint, spelling, rfl, denotes⟩
    exact denotes

/-- The key is read from the forms that name one, and from no others. -/
theorem key?_eq_some_iff : key? argument = some key ↔ NamesKey argument key := by
  constructor
  · intro found
    cases argument with
    | absent =>
      rcases found with ⟨⟩
      exact .absent
    | list delimiter content =>
      unfold key? at found
      dsimp only at found
      split at found
      · rcases found with ⟨⟩
        exact .empty delimiter
      · rename_i spelling
        rcases (Option.orElse_eq_some _ _ _).1 found with denotes | ⟨_, named⟩
        · exact .carried (.list delimiter) denotes
        · rcases namedText?_eq_some_iff.1 named with ⟨_, _, ⟨⟩, _⟩
      · rcases namedText?_eq_some_iff.1 found with ⟨joint, spelling, rfl, denotes⟩
        exact .carried (.named delimiter joint) denotes
    | value tokens literal =>
      rcases literal with _ | spelling
      · cases found
      · exact .carried (.value tokens) found
  · intro names
    cases names with
    | absent => rfl
    | empty delimiter => rfl
    | carried carries denotes =>
      cases carries with
      | list delimiter => exact (Option.orElse_eq_some _ _ _).2 (Or.inl denotes)
      | named delimiter joint => exact namedText?_eq_some_iff.2 ⟨joint, _, rfl, denotes⟩
      | value tokens => exact denotes

end MarkerArgument

/-- The parts of the contract, in the order in which violations are reported. -/
def ContractPart.all : List ContractPart := [.declaration, .serialize, .deserialize, .marker]

theorem ContractPart.mem_all (part : ContractPart) : part ∈ all := by
  cases part <;> decide

namespace MarkedDeclaration

/-- Whether a function is the first one of its name in a declaration. -/
def HasFirst (declaration : MarkedDeclaration) (name : String) (shape : FunctionShape) : Prop :=
  ∃ before after, declaration.functions = before ++ shape :: after ∧ shape.name = name ∧
    ∀ earlier ∈ before, earlier.name ≠ name

theorem function?_eq_some_iff {declaration : MarkedDeclaration} {name : String}
    {shape : FunctionShape} :
    declaration.function? name = some shape ↔ declaration.HasFirst name shape := by
  rw [function?, List.find?_eq_some_iff_append, HasFirst]
  constructor
  · rintro ⟨named, before, after, split, others⟩
    exact ⟨before, after, split, by simpa using named, by simpa using others⟩
  · rintro ⟨before, after, split, named, others⟩
    exact ⟨by simpa using named, before, after, split, by simpa using others⟩

end MarkedDeclaration

namespace ContractNames

variable {names : ContractNames} {declaration : MarkedDeclaration} {marker : Attribute}
  {module : String} {part : ContractPart} {violation : ContractViolation}

/-- Whether the text of a type starts with the name of the map type. -/
def IsMap (names : ContractNames) (type : String) : Prop :=
  names.mapTypeName.toList <+: type.toList

/-- Whether a function takes nothing but a receiver and gives a map back. -/
def GivesMap (names : ContractNames) (shape : FunctionShape) : Prop :=
  shape.hasReceiver = true ∧ shape.inputs = [] ∧ ∃ output, shape.output = some output ∧
    names.IsMap output

/-- Whether a function takes a map and nothing else. -/
def TakesMap (names : ContractNames) (shape : FunctionShape) : Prop :=
  shape.hasReceiver = false ∧ ∃ input, shape.inputs = [input] ∧ names.IsMap input

/-- Whether a declaration with the given marker keeps a part of the contract. -/
def Keeps (names : ContractNames) (declaration : MarkedDeclaration) (marker : Attribute) :
    ContractPart → Prop
  | .declaration => declaration.generics = none
  | .serialize => ∃ shape, declaration.HasFirst names.serializeMethod shape ∧ names.GivesMap shape
  | .deserialize =>
    ∃ shape, declaration.HasFirst names.deserializeConstructor shape ∧ names.TakesMap shape
  | .marker => ∃ key, MarkerArgument.NamesKey marker.argument key

/-- The check of one part of the contract. -/
def violation? (names : ContractNames) (declaration : MarkedDeclaration) (marker : Attribute) :
    ContractPart → Option ContractViolation
  | .declaration => declaration.generics.map .genericDeclaration
  | .serialize => names.serializeViolation? (declaration.function? names.serializeMethod)
  | .deserialize => names.deserializeViolation? (declaration.function? names.deserializeConstructor)
  | .marker => markerViolation? marker

theorem violations_eq (names : ContractNames) (declaration : MarkedDeclaration)
    (marker : Attribute) :
    names.violations declaration marker =
      ContractPart.all.filterMap (names.violation? declaration marker) := by
  rw [List.filterMap_eq_flatMap_toList]
  simp [ContractPart.all, violations, violation?]

theorem isMapLike_iff {type : String} :
    isMapLike type names.mapTypeName = true ↔ names.IsMap type :=
  List.isPrefixOf_iff_prefix

theorem serializeViolation?_eq_none_iff {found : Option FunctionShape} :
    names.serializeViolation? found = none ↔
      ∃ shape, found = some shape ∧ names.GivesMap shape := by
  rcases found with _ | ⟨name, hasReceiver, inputs, output⟩
  · simp [serializeViolation?]
  · rcases hasReceiver <;> rcases inputs with _ | ⟨input, others⟩ <;> rcases output with _ | output
    all_goals simp [serializeViolation?, GivesMap, ← isMapLike_iff]

theorem deserializeViolation?_eq_none_iff {found : Option FunctionShape} :
    names.deserializeViolation? found = none ↔
      ∃ shape, found = some shape ∧ names.TakesMap shape := by
  rcases found with _ | ⟨name, hasReceiver, inputs, output⟩
  · simp [deserializeViolation?]
  · rcases hasReceiver <;> rcases inputs with _ | ⟨input, _ | ⟨second, others⟩⟩
    all_goals simp [deserializeViolation?, TakesMap, ← isMapLike_iff]

theorem markerViolation?_eq_none_iff :
    markerViolation? marker = none ↔ ∃ key, MarkerArgument.NamesKey marker.argument key := by
  unfold markerViolation?
  simp only [← MarkerArgument.key?_eq_some_iff]
  cases MarkerArgument.key? marker.argument <;> simp

/-- A check finds nothing wrong with a part exactly if the part is kept. -/
theorem violation?_eq_none_iff :
    names.violation? declaration marker part = none ↔ names.Keeps declaration marker part := by
  cases part with
  | declaration => exact Option.map_eq_none_iff
  | serialize =>
    simp only [violation?, serializeViolation?_eq_none_iff, MarkedDeclaration.function?_eq_some_iff,
      Keeps]
  | deserialize =>
    simp only [violation?, deserializeViolation?_eq_none_iff,
      MarkedDeclaration.function?_eq_some_iff, Keeps]
  | marker => exact markerViolation?_eq_none_iff

/-- A check tells of the part that it is about. -/
theorem part_of_violation? (found : names.violation? declaration marker part = some violation) :
    violation.part = part := by
  cases part with
  | declaration =>
    rcases Option.map_eq_some_iff.1 found with ⟨parameters, _, rfl⟩
    rfl
  | serialize =>
    unfold violation? serializeViolation? at found
    dsimp only at found
    split at found
    · rcases found with ⟨⟩
      rfl
    · rcases Option.map_eq_some_iff.1 found with ⟨problem, _, rfl⟩
      rfl
  | deserialize =>
    unfold violation? deserializeViolation? at found
    dsimp only at found
    split at found
    · rcases found with ⟨⟩
      rfl
    · rcases Option.map_eq_some_iff.1 found with ⟨problem, _, rfl⟩
      rfl
  | marker =>
    unfold violation? markerViolation? at found
    dsimp only at found
    split at found
    · cases found
    · rcases found with ⟨⟩
      rfl

/-- The parts of the violations are the broken parts, each once and in order. -/
theorem map_part_violations (names : ContractNames) (declaration : MarkedDeclaration)
    (marker : Attribute) :
    (names.violations declaration marker).map ContractViolation.part =
      ContractPart.all.filter fun part => (names.violation? declaration marker part).isSome := by
  have named : ∀ part, (names.violation? declaration marker part).map ContractViolation.part =
      Option.guard (fun part => (names.violation? declaration marker part).isSome) part := by
    intro part
    rw [Option.guard_apply]
    rcases found : names.violation? declaration marker part with _ | violation
    · rfl
    · rw [Option.map_some, part_of_violation? found, Option.isSome_some, if_pos rfl]
  rw [violations_eq, List.map_filterMap, ← List.filterMap_eq_filter]
  exact List.filterMap_congr fun part _ => named part

theorem mem_map_part_violations :
    part ∈ (names.violations declaration marker).map ContractViolation.part ↔
      ¬names.Keeps declaration marker part := by
  rw [map_part_violations, List.mem_filter, Option.isSome_iff_ne_none, Ne, violation?_eq_none_iff]
  exact and_iff_right part.mem_all

theorem violations_eq_nil_iff :
    names.violations declaration marker = [] ↔ ∀ part, names.Keeps declaration marker part := by
  rw [violations_eq, List.filterMap_eq_nil_iff]
  constructor
  · intro unbroken part
    exact violation?_eq_none_iff.1 (unbroken part part.mem_all)
  · intro keeps part _
    exact violation?_eq_none_iff.2 (keeps part)

theorem judge_of_violations_eq_nil (marked : declaration.encodable = some marker)
    (unbroken : names.violations declaration marker = []) :
    names.judge module declaration =
      .qualifies ⟨declaration.name, module, (MarkerArgument.key? marker.argument).getD ""⟩ := by
  rw [judge, marked]
  simp only [unbroken]

theorem judge_of_violations_ne_nil (marked : declaration.encodable = some marker)
    (broken : names.violations declaration marker ≠ []) :
    names.judge module declaration =
      .rejected ⟨declaration.name, names.violations declaration marker⟩ := by
  rw [judge, marked]
  dsimp only
  split
  · contradiction
  · rfl

/-- A declaration qualifies exactly if it keeps every part of the contract. -/
theorem judge_eq_qualifies_iff {candidate : Candidate}
    (marked : declaration.encodable = some marker) :
    names.judge module declaration = .qualifies candidate ↔
      (∀ part, names.Keeps declaration marker part) ∧
        candidate.name = declaration.name ∧ candidate.module = module ∧
          MarkerArgument.NamesKey marker.argument candidate.customKey := by
  rw [← violations_eq_nil_iff]
  constructor
  · intro qualifies
    by_cases unbroken : names.violations declaration marker = []
    · have keeps := violations_eq_nil_iff.1 unbroken .marker
      rcases keeps with ⟨key, namesKey⟩
      rw [judge_of_violations_eq_nil marked unbroken,
        MarkerArgument.key?_eq_some_iff.2 namesKey] at qualifies
      rcases qualifies with ⟨⟩
      exact ⟨unbroken, rfl, rfl, namesKey⟩
    · rw [judge_of_violations_ne_nil marked unbroken] at qualifies
      cases qualifies
  · rintro ⟨unbroken, sameName, sameModule, namesKey⟩
    rw [judge_of_violations_eq_nil marked unbroken,
      MarkerArgument.key?_eq_some_iff.2 namesKey, Option.getD_some, ← sameName, ← sameModule]

end ContractNames

theorem Rejection.withoutRepeats_of_nodup {parts : List ContractPart} (distinct : parts.Nodup) :
    withoutRepeats parts = parts := by
  fun_induction withoutRepeats parts with
  | case1 => rfl
  | case2 => rfl
  | case3 first rest _ =>
    rw [List.nodup_cons] at distinct
    exact absurd List.mem_cons_self distinct.1
  | case4 first second rest _ ih =>
    rw [List.nodup_cons] at distinct
    rw [ih distinct.2]

/-- The verdict names the broken parts. It is withheld from a declaration without the marker; else
the declaration qualifies, with its name, its module and the key that the marker names, if it keeps
every part of the contract, and is rejected with one violation for each part that it breaks. -/
theorem ContractNames.verdict_names_broken_parts (names : ContractNames) (module : String)
    (declaration : MarkedDeclaration) :
    (names.judge module declaration = .notApplicable ↔ declaration.encodable = none) ∧
      ∀ marker, declaration.encodable = some marker →
        (∀ candidate, names.judge module declaration = .qualifies candidate ↔
          (∀ part, names.Keeps declaration marker part) ∧
            candidate.name = declaration.name ∧ candidate.module = module ∧
              MarkerArgument.NamesKey marker.argument candidate.customKey) ∧
        ((∃ part, ¬names.Keeps declaration marker part) →
          ∃ rejection, names.judge module declaration = .rejected rejection ∧
            rejection.declaration = declaration.name ∧
            rejection.parts = rejection.violations.map ContractViolation.part ∧
            rejection.parts.Sublist ContractPart.all ∧
            ∀ part, part ∈ rejection.parts ↔ ¬names.Keeps declaration marker part) := by
  refine ⟨?_, ?_⟩
  · rcases marked : declaration.encodable with _ | marker
    · simp [judge, marked]
    · by_cases unbroken : names.violations declaration marker = []
      · simp [judge_of_violations_eq_nil marked unbroken]
      · simp [judge_of_violations_ne_nil marked unbroken]
  · intro marker marked
    refine ⟨?_, ?_⟩
    · intro candidate
      exact judge_eq_qualifies_iff marked
    · rintro ⟨part, breaks⟩
      have broken : names.violations declaration marker ≠ [] := by
        rw [Ne, violations_eq_nil_iff]
        exact fun keeps => breaks (keeps part)
      have sublist : ((names.violations declaration marker).map ContractViolation.part).Sublist
          ContractPart.all := by
        rw [map_part_violations]
        exact List.filter_sublist
      have parts : (Rejection.mk declaration.name (names.violations declaration marker)).parts =
          (names.violations declaration marker).map ContractViolation.part :=
        Rejection.withoutRepeats_of_nodup (sublist.nodup (by decide))
      refine ⟨_, judge_of_violations_ne_nil marked broken, rfl, parts, parts ▸ sublist, ?_⟩
      intro part
      rw [parts, mem_map_part_violations]

namespace Sample

/-- A marker whose argument goes on after the key. -/
def overfullMarker : Attribute :=
  ⟨false, .ofWord "encodable", .list .parenthesis [.literal "\"A\"", .mark ',' false]⟩

/-- A generic declaration with two methods of one name, of which only the second one would do. -/
def genericDeclaration : MarkedDeclaration where
  name := "A"
  kind := .struct
  encodable := some overfullMarker
  serializer := false
  deserializer := false
  generics := some "<T>"
  functions := [⟨"to_map", false, [], some "HashMap<String,Value>"⟩,
    ⟨"to_map", true, [], some "HashMap<String,Value>"⟩,
    ⟨"from_map", false, ["HashMap<String,Value>"], some "Self"⟩]

/-- The generic declaration is rejected for all parts but its constructor. -/
theorem verdict_names_broken_parts_generic :
    genericDeclaration.encodable = some overfullMarker ∧
      ¬ContractNames.standard.Keeps genericDeclaration overfullMarker .declaration ∧
        ∃ rejection, ContractNames.standard.judge "crate" genericDeclaration =
            .rejected rejection ∧
          rejection.parts = [.declaration, .serialize, .marker] := by
  have marked : genericDeclaration.encodable = some overfullMarker := rfl
  have isGeneric :
      ¬ContractNames.standard.Keeps genericDeclaration overfullMarker .declaration := nofun
  rcases ((ContractNames.standard.verdict_names_broken_parts "crate" genericDeclaration).2
    overfullMarker marked).2 ⟨.declaration, isGeneric⟩ with ⟨rejection, verdict, _⟩
  refine ⟨marked, isGeneric, rejection, verdict, ?_⟩
  have violations : ContractNames.standard.judge "crate" genericDeclaration =
      .rejected ⟨"A", [.genericDeclaration "<T>", .serializeShape "to_map" .static,
        .invalidMarkerArgument "encodable (\"A\" ,)"]⟩ := by
    decide
  rw [violations] at verdict
  rcases verdict with ⟨⟩
  decide

end Sample

end Registrar
