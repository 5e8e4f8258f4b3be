import Registrar.Proofs.Artifact.Imports
import Registrar.Proofs.Artifact.Restamping

/-!
# What the names in the artifact denote

The artifact refers to declarations by their names alone. A name denotes the declaration of one
module as long as nothing else brings it into scope: no import from another module, and nothing that
the artifact imports or defines itself. Nothing keeps such names apart, so this is a condition on
what was found and on the name of the codec.
-/

namespace Registrar

/-- A name without the mark of a raw word; such a word is the same name. -/
def simpleName (name : String) : String :=
  match name.toList with
  | 'r' :: '#' :: rest => String.ofList rest
  | _ => name

/-- What brings a name into scope: an import from a module, or a definition. -/
inductive Origin
  | imported (module : String)
  | defined
  deriving DecidableEq, Repr

/-- A name with what brings it into scope. -/
structure Binding where
  name : String
  origin : Origin
  deriving DecidableEq, Repr

/-- The binding by which a declaration is imported. -/
def DeclarationId.binding (id : DeclarationId) : Binding := ⟨id.name, .imported id.module⟩

theorem DeclarationId.binding_injective : Function.Injective DeclarationId.binding := by
  rintro ⟨name, module⟩ ⟨other, otherModule⟩ ⟨⟩
  rfl

namespace Binding

/-- The binding of a name that is defined. -/
def ofDefinition (name : String) : Binding := ⟨name, .defined⟩

/-- Whether a binding is one of the given name. -/
def isOf (name : String) (binding : Binding) : Bool :=
  simpleName binding.name = simpleName name

/-- Whether two bindings do not compete for a name, where definitions are not told apart. -/
def Coexists (left right : Binding) : Prop :=
  simpleName left.name = simpleName right.name →
    left.origin = .defined ∧ right.origin = .defined

theorem coexists_binding {id : DeclarationId} {other : Binding} :
    Coexists id.binding other ↔ simpleName id.name ≠ simpleName other.name := by
  simp [Coexists, DeclarationId.binding]

theorem isOf_binding {name : String} {id : DeclarationId} :
    isOf name id.binding = true ↔ simpleName id.name = simpleName name :=
  decide_eq_true_iff

theorem isOf_ofDefinition {name other : String} :
    isOf name (ofDefinition other) = true ↔ simpleName other = simpleName name :=
  decide_eq_true_iff

end Binding

/-- The word that the name of the codec consists of, apart from blanks and comments. -/
def ArtifactSettings.codecWord (settings : ArtifactSettings) : String :=
  match Source.readTokens? settings.codecName.toList with
  | some [.word name] => name
  | _ => settings.codecName

namespace ArtifactSource

/-- What the artifact imports for itself. -/
def standardImports : List (String × List String) :=
  [("std::any", ["Any"]), ("std::collections", ["HashMap"]), ("std::sync", ["LazyLock"])]

/-- All imports of the artifact. -/
def imports (aggregation : Aggregation) : List (String × List String) :=
  standardImports ++ importsByModule aggregation.importedIds

/-- The converters that the artifact defines. -/
def fallbackNames (aggregation : Aggregation) : List String :=
  (if aggregation.serializer.isSome then [] else [passThroughEncoder]) ++
    (if aggregation.deserializer.isSome then [] else [passThroughDecoder])

/-- The types that the artifact defines. -/
def definedNames (settings : ArtifactSettings) (aggregation : Aggregation) : List String :=
  ["EncodableMap", "EncodableFactory", settings.codecWord] ++ fallbackNames aggregation

/-- What is in scope in the artifact by its imports and its types. -/
def scope (settings : ArtifactSettings) (aggregation : Aggregation) : List Binding :=
  (importedDeclarations (imports aggregation)).map DeclarationId.binding ++
    (definedNames settings aggregation).map Binding.ofDefinition

/-- Whether a name stands for the declaration of a module, and for nothing else. -/
def Denotes (settings : ArtifactSettings) (aggregation : Aggregation) (id : DeclarationId) : Prop :=
  (scope settings aggregation).filter (Binding.isOf id.name) = [id.binding]

/-- Whether no name is brought into scope by two imports, or by an import and a definition. -/
def IsUnambiguous (settings : ArtifactSettings) (aggregation : Aggregation) : Prop :=
  (scope settings aggregation).Pairwise Binding.Coexists

/-- The names that the artifact brings into scope for itself. -/
def ownNames (settings : ArtifactSettings) (aggregation : Aggregation) : List String :=
  ["Any", "HashMap", "LazyLock"] ++ definedNames settings aggregation

/-- Whether the declarations that the artifact is about have names of their own: no two of them
share one, and none has a name that the artifact brings into scope for itself. -/
structure HasOwnNames (settings : ArtifactSettings) (aggregation : Aggregation) : Prop where
  distinct : ∀ id ∈ aggregation.importedIds, ∀ other ∈ aggregation.importedIds,
    simpleName id.name = simpleName other.name → id = other
  free : ∀ id ∈ aggregation.importedIds, ∀ name ∈ ownNames settings aggregation,
    simpleName id.name ≠ simpleName name

variable {settings : ArtifactSettings} {aggregation : Aggregation}

theorem importedDeclarations_imports (aggregation : Aggregation) :
    importedDeclarations (imports aggregation) = importedDeclarations standardImports ++
      importedDeclarations (importsByModule aggregation.importedIds) :=
  List.flatMap_append

theorem mem_standardNames {name : String} :
    name ∈ ["Any", "HashMap", "LazyLock"] ↔
      ∃ id ∈ importedDeclarations standardImports, simpleName id.name = name := by
  have same : (importedDeclarations standardImports).map (fun id => simpleName id.name) =
      ["Any", "HashMap", "LazyLock"] := by decide
  rw [← same, List.mem_map]

/-- The imports of declarations do not compete if no two of them share a name. -/
theorem pairwise_binding_iff {ids : List DeclarationId} (distinct : ids.Nodup) :
    (ids.map DeclarationId.binding).Pairwise Binding.Coexists ↔
      ∀ id ∈ ids, ∀ other ∈ ids, simpleName id.name = simpleName other.name → id = other := by
  rw [← List.nodup_map_iff_inj_on distinct, List.Nodup, List.pairwise_map, List.pairwise_map]
  simp only [Binding.coexists_binding]
  rfl

theorem ne_of_mem_fallbackNames {id : DeclarationId} {name : String}
    (standard : id ∈ importedDeclarations standardImports)
    (fallback : name ∈ fallbackNames aggregation) : simpleName id.name ≠ simpleName name := by
  have apart : ∀ id ∈ importedDeclarations standardImports,
      ∀ name ∈ [passThroughEncoder, passThroughDecoder], simpleName id.name ≠ simpleName name := by
    decide
  apply apart id standard
  rcases List.mem_append.1 fallback with encoder | decoder
  · split at encoder
    · cases encoder
    · exact List.mem_cons.2 (Or.inl (List.mem_singleton.1 encoder))
  · split at decoder
    · cases decoder
    · exact List.mem_cons_of_mem _ decoder

/-- What the artifact defines competes with no import that it needs itself, but for the codec. -/
theorem standard_ne_defined_iff :
    (∀ id ∈ importedDeclarations standardImports, ∀ name ∈ definedNames settings aggregation,
      simpleName id.name ≠ simpleName name) ↔
        simpleName settings.codecWord ∉ ["Any", "HashMap", "LazyLock"] := by
  constructor
  · intro apart member
    rcases mem_standardNames.1 member with ⟨id, standard, same⟩
    exact apart id standard settings.codecWord (by simp [definedNames]) same
  · intro codec id standard name defined
    rcases List.mem_append.1 defined with inTypes | fallback
    · have apart : ∀ id ∈ importedDeclarations standardImports,
          ∀ name ∈ ["EncodableMap", "EncodableFactory"], simpleName id.name ≠ simpleName name := by
        decide
      rcases List.mem_cons.1 inTypes with rfl | inTypes
      · exact apart id standard _ (by decide)
      · rcases List.mem_cons.1 inTypes with rfl | isCodec
        · exact apart id standard _ (by decide)
        · rcases List.mem_singleton.1 isCodec with rfl
          intro same
          exact codec (mem_standardNames.2 ⟨id, standard, same⟩)
    · exact ne_of_mem_fallbackNames standard fallback

theorem forall_ne_ownNames_iff {id : DeclarationId} :
    (∀ name ∈ ownNames settings aggregation, simpleName id.name ≠ simpleName name) ↔
      (∀ other ∈ importedDeclarations standardImports,
        simpleName other.name ≠ simpleName id.name) ∧
        ∀ name ∈ definedNames settings aggregation, simpleName id.name ≠ simpleName name := by
  have standard : importedDeclarations standardImports =
      [⟨"Any", "std::any"⟩, ⟨"HashMap", "std::collections"⟩, ⟨"LazyLock", "std::sync"⟩] := rfl
  rw [ownNames, List.forall_mem_append, standard]
  apply and_congr_left
  intro _
  simp [eq_comm]

/-- Names are unambiguous exactly if the declarations have names of their own, and the codec is not
named like something that the artifact imports for itself. -/
theorem isUnambiguous_iff : IsUnambiguous settings aggregation ↔
    HasOwnNames settings aggregation ∧
      simpleName settings.codecWord ∉ ["Any", "HashMap", "LazyLock"] := by
  have standard : ((importedDeclarations standardImports).map DeclarationId.binding).Pairwise
      Binding.Coexists := by
    rw [pairwise_binding_iff (by decide)]
    decide
  have defined : ((definedNames settings aggregation).map Binding.ofDefinition).Pairwise
      Binding.Coexists := by
    rw [List.pairwise_map]
    exact List.pairwise_of_forall fun _ _ _ => ⟨rfl, rfl⟩
  rw [← @standard_ne_defined_iff settings aggregation, IsUnambiguous, scope,
    importedDeclarations_imports, List.map_append, List.pairwise_append, List.pairwise_append,
    pairwise_binding_iff (nodup_importedDeclarations aggregation.importedIds)]
  simp only [List.forall_mem_append, List.forall_mem_map, Binding.coexists_binding, standard,
    defined, true_and, mem_importedDeclarations]
  constructor
  · rintro ⟨⟨apart, crossing⟩, codec, own⟩
    refine ⟨⟨apart, ?_⟩, codec⟩
    intro id member
    rw [forall_ne_ownNames_iff]
    exact ⟨fun other isStandard => crossing other isStandard id member, own id member⟩
  · rintro ⟨⟨apart, free⟩, codec⟩
    refine ⟨⟨apart, ?_⟩, codec, ?_⟩
    · intro other isStandard id member
      exact (forall_ne_ownNames_iff.1 (free id member)).1 other isStandard
    · intro id member
      exact (forall_ne_ownNames_iff.1 (free id member)).2

theorem filter_binding_eq_nil_iff {ids : List DeclarationId} {name : String} :
    (ids.map DeclarationId.binding).filter (Binding.isOf name) = [] ↔
      ∀ other ∈ ids, simpleName other.name ≠ simpleName name := by
  rw [List.filter_eq_nil_iff, List.forall_mem_map]
  simp only [Binding.isOf_binding, ne_eq]

theorem filter_ofDefinition_eq_nil_iff {names : List String} {name : String} :
    (names.map Binding.ofDefinition).filter (Binding.isOf name) = [] ↔
      ∀ other ∈ names, simpleName name ≠ simpleName other := by
  rw [List.filter_eq_nil_iff, List.forall_mem_map]
  simp only [Binding.isOf_ofDefinition, ne_comm, ne_eq]

/-- Among distinct declarations, one is the only one of its name if and only if it is the only one
whose binding is of that name. -/
theorem filter_binding_eq_singleton_iff {ids : List DeclarationId} {id : DeclarationId}
    (distinct : ids.Nodup) (member : id ∈ ids) :
    (ids.map DeclarationId.binding).filter (Binding.isOf id.name) = [id.binding] ↔
      ∀ other ∈ ids, simpleName id.name = simpleName other.name → id = other := by
  constructor
  · intro alone other otherMember same
    have found : other.binding ∈ (ids.map DeclarationId.binding).filter (Binding.isOf id.name) :=
      List.mem_filter.2 ⟨List.mem_map_of_mem otherMember, Binding.isOf_binding.2 same.symm⟩
    rw [alone, List.mem_singleton] at found
    exact (DeclarationId.binding_injective found).symm
  · intro alone
    apply List.perm_singleton.1
    rw [List.perm_ext_iff_of_nodup ((distinct.map DeclarationId.binding_injective).filter _)
      (List.nodup_singleton _)]
    intro binding
    rw [List.mem_filter, List.mem_map, List.mem_singleton]
    constructor
    · rintro ⟨⟨other, otherMember, rfl⟩, isOf⟩
      rw [alone other otherMember (Binding.isOf_binding.1 isOf).symm]
    · rintro rfl
      exact ⟨⟨id, member, rfl⟩, Binding.isOf_binding.2 rfl⟩

/-- A name denotes its declaration exactly if no other declaration that is imported shares it, and
the artifact brings nothing of that name into scope for itself. -/
theorem denotes_iff {id : DeclarationId} (member : id ∈ aggregation.importedIds) :
    Denotes settings aggregation id ↔
      (∀ other ∈ aggregation.importedIds,
        simpleName id.name = simpleName other.name → id = other) ∧
        ∀ name ∈ ownNames settings aggregation, simpleName id.name ≠ simpleName name := by
  have imported : id ∈ importedDeclarations (importsByModule aggregation.importedIds) :=
    mem_importedDeclarations.2 member
  have alone := filter_binding_eq_singleton_iff
    (nodup_importedDeclarations aggregation.importedIds) imported
  simp only [mem_importedDeclarations] at alone
  rw [Denotes, scope, importedDeclarations_imports, List.map_append, List.filter_append,
    List.filter_append, ← alone, forall_ne_ownNames_iff, ← filter_binding_eq_nil_iff,
    ← filter_ofDefinition_eq_nil_iff]
  constructor
  · intro whole
    -- One binding of the name is that of the declaration itself, which leaves none for the rest.
    have present : id.binding ∈ ((importedDeclarations (importsByModule
        aggregation.importedIds)).map DeclarationId.binding).filter (Binding.isOf id.name) :=
      List.mem_filter.2 ⟨List.mem_map_of_mem imported, Binding.isOf_binding.2 rfl⟩
    have positive := List.length_pos_of_mem present
    have lengths := congrArg List.length whole
    rw [List.length_append, List.length_append, List.length_singleton] at lengths
    have noStandard := List.eq_nil_of_length_eq_zero (by omega :
      (((importedDeclarations standardImports).map DeclarationId.binding).filter
        (Binding.isOf id.name)).length = 0)
    have noDefined := List.eq_nil_of_length_eq_zero (by omega :
      (((definedNames settings aggregation).map Binding.ofDefinition).filter
        (Binding.isOf id.name)).length = 0)
    rw [noStandard, noDefined, List.nil_append, List.append_nil] at whole
    exact ⟨whole, noStandard, noDefined⟩
  · rintro ⟨whole, noStandard, noDefined⟩
    rw [noStandard, noDefined, List.nil_append, List.append_nil, whole]

/-- Every name denotes its declaration exactly if the declarations have names of their own. -/
theorem forall_denotes_iff :
    (∀ id ∈ aggregation.importedIds, Denotes settings aggregation id) ↔
      HasOwnNames settings aggregation := by
  constructor
  · intro denotes
    constructor
    · intro id member
      exact ((denotes_iff member).1 (denotes id member)).1
    · intro id member
      exact ((denotes_iff member).1 (denotes id member)).2
  · rintro ⟨distinct, free⟩ id member
    exact (denotes_iff member).2 ⟨distinct id member, free id member⟩

end ArtifactSource

end Registrar
