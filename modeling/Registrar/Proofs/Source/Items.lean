import Mathlib.Data.List.Forall2
import Registrar.Proofs.Source.Reading

/-!
# What the items of a file are read from

An item is read from the trees that are left after its attributes and its visibility. It is kept as
a declaration exactly if these start with a word for one, and as the functions of a type exactly if
they are a private implementation, without a condition and of no trait, for the bare name of the
type. The items of a file are read one after the other.
-/

namespace Registrar.Source

/-- The word that a declaration starts with. -/
def DeclarationKind.keyword : DeclarationKind → String
  | struct => "struct"
  | enum => "enum"

/-- Whether an item declares a type of the given name. -/
def Item.Declares (item : Item) (name : String) : Prop :=
  ∃ kind attributes generics, item = .declaration kind attributes name generics

/-- What is read of an implementation up to its first type, with the normal form of all of it. -/
structure ImplementationHead where
  tokens : Tokens
  condition : Tokens
  polarity : Tokens
  first : TypePhrase

namespace ImplementationHead

/-- The word that the first type is, apart from its arguments, if it is one. -/
def owner? (head : ImplementationHead) : Option String :=
  match head.first.form with
  | .path path => path.only?.map Segment.name
  | _ => none

/-- What an implementation is kept as. -/
def item (head : ImplementationHead) (exposed ofTrait : Bool) (signatures : List Signature) :
    Item :=
  match head.owner? with
  | some owner =>
    if exposed || !head.condition.isEmpty || ofTrait then .other else .functions owner signatures
  | none => .other

variable {head : ImplementationHead} {owner : String}

theorem owner?_eq_some_iff :
    head.owner? = some owner ↔ ∃ arguments, head.first.form = .path ⟨[], [⟨owner, arguments⟩]⟩ := by
  constructor
  · intro owned
    unfold owner? at owned
    split at owned
    · rename_i path isPath
      rcases Option.map_eq_some_iff.1 owned with ⟨segment, single, rfl⟩
      unfold Path.only? at single
      split at single
      · rename_i noLeading oneSegment
        rcases single with ⟨⟩
        exact ⟨segment.arguments, by rw [isPath, ← noLeading, ← oneSegment]⟩
      · cases single
    · cases owned
  · rintro ⟨arguments, isPath⟩
    rw [owner?, isPath]
    rfl

theorem item_eq_functions_iff {exposed ofTrait : Bool} {found signatures : List Signature} :
    head.item exposed ofTrait found = .functions owner signatures ↔
      exposed = false ∧ head.condition = [] ∧ ofTrait = false ∧ head.owner? = some owner ∧
        found = signatures := by
  unfold item
  rcases head.owner? with _ | name
  · simp
  · rcases exposed <;> rcases ofTrait <;> rcases head.condition <;> simp

theorem item_ne_declaration {exposed ofTrait : Bool} {signatures : List Signature} {name : String} :
    ¬(head.item exposed ofTrait signatures).Declares name := by
  rintro ⟨kind, attributes, generics, same⟩
  unfold item at same
  repeat' split at same
  all_goals cases same

end ImplementationHead

/-- Whether a reader, if it reads anything, reads the given item. -/
class Reader.ReadsOnly (item : Item) (reader : Reader ItemPhrase) : Prop where
  item_eq : ∀ {tokens rest : Tokens} {phrase : ItemPhrase},
    reader tokens = some (phrase, rest) → phrase.item = item

namespace Reader.ReadsOnly

variable {item : Item}

instance {α : Type} (reader : Reader α) (next : α → Reader ItemPhrase)
    [further : ∀ value, ReadsOnly item (next value)] : ReadsOnly item (reader >>= next) where
  item_eq := by
    intro tokens rest phrase read
    rcases bind_eq_some read with ⟨value, middle, _, continued⟩
    exact (further value).item_eq continued

instance (condition : Prop) [Decidable condition] (first second : Reader ItemPhrase)
    [ReadsOnly item first] [ReadsOnly item second] :
    ReadsOnly item (if condition then first else second) := by
  split <;> infer_instance

instance (tokens : Tokens) : ReadsOnly item (pure ⟨item, tokens⟩) where
  item_eq := by
    rintro _ _ _ ⟨⟩
    rfl

end Reader.ReadsOnly

namespace Grammar

open Reader

variable {grammar : Grammar} {attributes : List Attribute} {exposed : Bool} {tokens rest : Tokens}
  {phrase : ItemPhrase}

/-- The grammar by which the items of a file with the given trees are read. -/
def forItems (tokens : Tokens) : Grammar := ofDepth (8 * treeCount tokens + 7)

theorem forTokens_eq (tokens : Tokens) : forTokens tokens = step (forItems tokens) := rfl

/-- An implementation up to its first type. -/
def implementationHead (grammar : Grammar) : Reader ImplementationHead := do
  let defaultness ← optionalWord "default"
  let safety ← optionalWord "unsafe"
  let keyword ← word "impl"
  let generics ← if atGenerics (← get) then generics grammar else pure []
  let tokens ← get
  let condition ←
    if tokens.atWord "const" || (tokens.atMark .question && tokens.afterOne.atWord "const") then
      let relaxation ← optionalMark .question
      pure (relaxation ++ (← word "const"))
    else pure []
  let tokens ← get
  let polarity ←
    if tokens.atMark .bang && !tokens.afterOne.atGroup .brace then mark .bang else pure []
  let first ← grammar.typeExpr true
  return ⟨defaultness ++ safety ++ keyword ++ generics ++ condition ++ polarity ++ first.tokens,
    condition, polarity, first⟩

/-- The conditions and the members of an implementation, in normal form and with the signatures of
the functions that have a body. -/
def implementationBody (grammar : Grammar) : Reader (Tokens × List Signature) := do
  let conditions ← conditions grammar
  let (inner, members) ← members grammar (implementationMember grammar)
  return (conditions ++ [.group .brace (inner ++ (members.map Prod.fst).flatten)],
    members.filterMap Prod.snd)

/-- The type for which a trait is implemented, if one is. -/
def implementationSubject (grammar : Grammar) (head : ImplementationHead) (ofTrait : Bool) :
    Reader Tokens := do
  if ofTrait then
    let preposition ← word "for"
    return preposition ++ (← grammar.typeTokens true)
  else
    require head.polarity.isEmpty
    return []

/-- An implementation after its first type. -/
def implementationRest (grammar : Grammar) (exposed : Bool) (head : ImplementationHead) :
    Reader ItemPhrase := do
  let ofTrait := (← get).atWord "for"
  let subject ← implementationSubject grammar head ofTrait
  let (body, signatures) ← implementationBody grammar
  return ⟨head.item exposed ofTrait signatures, head.tokens ++ subject ++ body⟩

theorem bind_of_ite {α β : Type} (condition : Prop) [Decidable condition]
    (first second : Reader α) (next : α → Reader β) :
    (if condition then first else second) >>= next =
      if condition then first >>= next else second >>= next := by
  split <;> rfl

/-- An implementation is read in two parts. -/
theorem implementationItem_eq (grammar : Grammar) (exposed : Bool) :
    implementationItem grammar exposed =
      implementationHead grammar >>= implementationRest grammar exposed := by
  unfold implementationItem implementationHead implementationRest implementationSubject
    implementationBody
  simp only [bind_assoc, pure_bind, bind_of_ite, List.append_assoc]
  rfl

/-- Where no trait is implemented, the body stands right after the first type. -/
theorem implementationRest_eq_some {head : ImplementationHead}
    (read : implementationRest grammar exposed head tokens = some (phrase, rest)) :
    ∃ signatures, phrase.item = head.item exposed (tokens.atWord "for") signatures ∧
      (tokens.atWord "for" = false →
        ∃ body, implementationBody grammar tokens = some ((body, signatures), rest)) := by
  rcases bind_eq_some read with ⟨_, _, ⟨⟩, afterLook⟩
  rcases bind_eq_some afterLook with ⟨subject, middle, subjectRead, afterSubject⟩
  rcases bind_eq_some afterSubject with ⟨⟨body, signatures⟩, left, bodyRead, ⟨⟩⟩
  refine ⟨signatures, rfl, ?_⟩
  intro inherent
  rw [inherent] at subjectRead
  rcases bind_eq_some subjectRead with ⟨_, _, required, ⟨⟩⟩
  rw [← (require_eq_some required).2]
  exact ⟨body, bodyRead⟩

/-- An implementation starts with the word for one, which others may come before. -/
theorem starts_of_implementationHead {head : ImplementationHead}
    (read : implementationHead grammar tokens = some (head, rest)) :
    ∃ others, tokens = .word "impl" :: others ∨ tokens = .word "unsafe" :: .word "impl" :: others ∨
      tokens = .word "default" :: .word "impl" :: others ∨
        tokens = .word "default" :: .word "unsafe" :: .word "impl" :: others := by
  rcases bind_eq_some read with ⟨_, afterDefault, default, afterFirst⟩
  rcases bind_eq_some afterFirst with ⟨_, afterUnsafe, safety, afterSecond⟩
  rcases bind_eq_some afterSecond with ⟨_, others, keyword, _⟩
  refine ⟨others, ?_⟩
  rw [word_eq_some keyword] at safety
  rcases optionalWord_eq_some default with rfl | rfl <;>
    rcases optionalWord_eq_some safety with rfl | rfl
  · exact Or.inr (Or.inr (Or.inr rfl))
  · exact Or.inr (Or.inr (Or.inl rfl))
  · exact Or.inr (Or.inl rfl)
  · exact Or.inl rfl

/-- A declaration after its visibility. -/
def declarationItem (grammar : Grammar) (attributes : List Attribute) :
    DeclarationKind → Reader ItemPhrase
  | .struct => structItem grammar attributes
  | .enum => enumItem grammar attributes

theorem declarationItem_eq_some {kind : DeclarationKind}
    (read : declarationItem grammar attributes kind tokens = some (phrase, rest)) :
    ∃ name generics afterName left, tokens = .word kind.keyword :: .word name :: afterName ∧
      grammar.generics afterName = some (generics, left) ∧
        phrase.item = .declaration kind attributes name generics := by
  -- Both kinds start alike, and what is read after that does not change what the item is.
  cases kind
  all_goals
    rcases bind_eq_some read with ⟨keyword, afterKeyword, keywordRead, named⟩
    rcases bind_eq_some named with ⟨name, afterName, nameRead, furnished⟩
    rcases bind_eq_some furnished with ⟨generics, left, genericsRead, further⟩
    refine ⟨name, generics, afterName, left, ?_, genericsRead, ReadsOnly.item_eq further⟩
    rw [word_eq_some keywordRead, name_eq_some nameRead]
    rfl

/-- Trees that start with the word for a declaration are read as one. -/
theorem visibleItem_of_declaration (grammar : Grammar) (attributes : List Attribute)
    (exposed : Bool) (kind : DeclarationKind) (others : Tokens) :
    visibleItem grammar attributes exposed (.word kind.keyword :: others) =
      declarationItem grammar attributes kind (.word kind.keyword :: others) := by
  cases kind <;> rfl

/-- Trees from which the head of an implementation can be read are read as one. -/
theorem visibleItem_of_implementation {head : ImplementationHead}
    (read : implementationHead grammar tokens = some (head, rest)) :
    visibleItem grammar attributes exposed tokens =
      implementationRest grammar exposed head rest := by
  have isImplementation : visibleItem grammar attributes exposed tokens =
      implementationItem grammar exposed tokens := by
    rcases starts_of_implementationHead read with ⟨others, rfl | rfl | rfl | rfl⟩ <;> rfl
  have combined : (implementationHead grammar >>= implementationRest grammar exposed) tokens =
      (implementationHead grammar tokens).bind fun result =>
        implementationRest grammar exposed result.1 result.2 := rfl
  rw [isImplementation, implementationItem_eq, combined, read, Option.bind_some]

/-- Whether a reader, where it reads anything, reads a declaration or an implementation, or an item
that is not kept. -/
class ReadsKeptOrOther (grammar : Grammar) (attributes : List Attribute) (exposed : Bool)
    (reader : Reader ItemPhrase) : Prop where
  kept_or_other : ∀ {tokens rest : Tokens} {phrase : ItemPhrase},
    reader tokens = some (phrase, rest) →
      (∃ kind, declarationItem grammar attributes kind tokens = some (phrase, rest)) ∨
        implementationItem grammar exposed tokens = some (phrase, rest) ∨ phrase.item = .other

namespace ReadsKeptOrOther

instance : ReadsKeptOrOther grammar attributes exposed (structItem grammar attributes) where
  kept_or_other read := Or.inl ⟨.struct, read⟩

instance : ReadsKeptOrOther grammar attributes exposed (enumItem grammar attributes) where
  kept_or_other read := Or.inl ⟨.enum, read⟩

instance : ReadsKeptOrOther grammar attributes exposed (implementationItem grammar exposed) where
  kept_or_other read := Or.inr (Or.inl read)

instance (reader : Reader ItemPhrase) [ReadsOnly .other reader] :
    ReadsKeptOrOther grammar attributes exposed reader where
  kept_or_other read := Or.inr (Or.inr (ReadsOnly.item_eq read))

instance (condition : Prop) [Decidable condition] (first second : Reader ItemPhrase)
    [ReadsKeptOrOther grammar attributes exposed first]
    [ReadsKeptOrOther grammar attributes exposed second] :
    ReadsKeptOrOther grammar attributes exposed (if condition then first else second) := by
  split <;> infer_instance

end ReadsKeptOrOther

theorem visibleItem_eq_some
    (read : visibleItem grammar attributes exposed tokens = some (phrase, rest)) :
    (∃ kind, declarationItem grammar attributes kind tokens = some (phrase, rest)) ∨
      implementationItem grammar exposed tokens = some (phrase, rest) ∨ phrase.item = .other := by
  rcases bind_eq_some read with ⟨_, _, ⟨⟩, chosen⟩
  exact ReadsKeptOrOther.kept_or_other chosen

end Grammar

/-- An item as it is written: its attributes, whether it has a visibility, and the trees that it is
read from the front of. -/
structure WrittenItem where
  attributes : List Attribute
  exposed : Bool
  trees : Tokens

namespace WrittenItem

open Grammar Reader

variable {grammar : Grammar} {written : WrittenItem} {tokens : Tokens} {items : List Item}

/-- Whether an item declares a type with the given name and parameters. -/
def Declares (grammar : Grammar) (written : WrittenItem) (kind : DeclarationKind) (name : String)
    (generics : Tokens) : Prop :=
  ∃ afterName rest, written.trees = .word kind.keyword :: .word name :: afterName ∧
    grammar.generics afterName = some (generics, rest)

/-- Whether an item implements functions for the bare name of a type, with or without arguments.
It is private, without a condition, and of no trait. -/
def Implements (grammar : Grammar) (written : WrittenItem) (owner : String)
    (signatures : List Signature) : Prop :=
  written.exposed = false ∧ ∃ head afterHead arguments body rest,
    grammar.implementationHead written.trees = some (head, afterHead) ∧ head.condition = [] ∧
      head.first.form = .path ⟨[], [⟨owner, arguments⟩]⟩ ∧ afterHead.atWord "for" = false ∧
        grammar.implementationBody afterHead = some ((body, signatures), rest)

/-- Whether an item is what is kept of a written one. -/
structure KeptAs (grammar : Grammar) (written : WrittenItem) (item : Item) : Prop where
  declaration : ∀ kind attributes name generics,
    item = .declaration kind attributes name generics ↔
      attributes = written.attributes ∧ written.Declares grammar kind name generics
  functions : ∀ owner signatures,
    item = .functions owner signatures ↔ written.Implements grammar owner signatures
  other : item = .other ↔ (∀ kind name generics, ¬written.Declares grammar kind name generics) ∧
    ∀ owner signatures, ¬written.Implements grammar owner signatures

section Kept

variable {phrase : ItemPhrase} {rest : Tokens} (read : visibleItem grammar written.attributes
  written.exposed written.trees = some (phrase, rest))

include read

theorem item_eq_declaration_iff {kind : DeclarationKind} {attributes : List Attribute}
    {name : String} {generics : Tokens} :
    phrase.item = .declaration kind attributes name generics ↔
      attributes = written.attributes ∧ written.Declares grammar kind name generics := by
  constructor
  · intro isDeclaration
    rcases visibleItem_eq_some read with ⟨_, declared⟩ | implemented | isOther
    · rcases declarationItem_eq_some declared with
        ⟨_, _, afterName, left, starts, genericsRead, kept⟩
      rcases kept.symm.trans isDeclaration with ⟨⟩
      exact ⟨rfl, afterName, left, starts, genericsRead⟩
    · rw [implementationItem_eq] at implemented
      rcases bind_eq_some implemented with ⟨head, afterHead, _, restRead⟩
      rcases implementationRest_eq_some restRead with ⟨signatures, kept, _⟩
      exact absurd ⟨_, _, _, kept.symm.trans isDeclaration⟩ head.item_ne_declaration
    · cases isOther.symm.trans isDeclaration
  · rintro ⟨rfl, afterName, left, starts, genericsRead⟩
    rw [starts, visibleItem_of_declaration] at read
    rcases declarationItem_eq_some read with ⟨_, _, _, _, ⟨⟩, foundGenerics, kept⟩
    rcases genericsRead.symm.trans foundGenerics with ⟨⟩
    exact kept

theorem item_eq_functions_iff {owner : String} {signatures : List Signature} :
    phrase.item = .functions owner signatures ↔ written.Implements grammar owner signatures := by
  constructor
  · intro isFunctions
    rcases visibleItem_eq_some read with ⟨_, declared⟩ | implemented | isOther
    · rcases declarationItem_eq_some declared with ⟨_, _, _, _, _, _, kept⟩
      cases kept.symm.trans isFunctions
    · rw [implementationItem_eq] at implemented
      rcases bind_eq_some implemented with ⟨head, afterHead, headRead, restRead⟩
      rcases implementationRest_eq_some restRead with ⟨found, kept, bodyRead⟩
      rcases ImplementationHead.item_eq_functions_iff.1 (kept.symm.trans isFunctions) with
        ⟨isPrivate, unconditional, inherent, owned, rfl⟩
      rcases ImplementationHead.owner?_eq_some_iff.1 owned with ⟨arguments, isPath⟩
      rcases bodyRead inherent with ⟨body, bodyRead⟩
      exact ⟨isPrivate, head, afterHead, arguments, body, _, headRead, unconditional, isPath,
        inherent, bodyRead⟩
    · cases isOther.symm.trans isFunctions
  · rintro ⟨isPrivate, head, afterHead, arguments, body, left, headRead, unconditional, isPath,
      inherent, bodyRead⟩
    rw [visibleItem_of_implementation headRead] at read
    rcases implementationRest_eq_some read with ⟨found, kept, foundBody⟩
    rcases foundBody inherent with ⟨_, foundBody⟩
    rcases bodyRead.symm.trans foundBody with ⟨⟩
    rw [kept]
    exact ImplementationHead.item_eq_functions_iff.2 ⟨isPrivate, unconditional, inherent,
      ImplementationHead.owner?_eq_some_iff.2 ⟨arguments, isPath⟩, rfl⟩

/-- What is read from the trees of an item is what is kept of it. -/
theorem keptAs_of_visibleItem : written.KeptAs grammar phrase.item where
  declaration _ _ _ _ := item_eq_declaration_iff read
  functions _ _ := item_eq_functions_iff read
  other := by
    constructor
    · intro isOther
      constructor
      · intro kind name generics declares
        cases isOther.symm.trans ((item_eq_declaration_iff read).2 ⟨rfl, declares⟩)
      · intro owner signatures implements
        cases isOther.symm.trans ((item_eq_functions_iff read).2 implements)
    · rintro ⟨noDeclaration, noFunctions⟩
      rcases kept : phrase.item with ⟨kind, attributes, name, generics⟩ | ⟨owner, signatures⟩ | _
      · exact absurd ((item_eq_declaration_iff read).1 kept).2 (noDeclaration kind name generics)
      · exact absurd ((item_eq_functions_iff read).1 kept) (noFunctions owner signatures)
      · rfl

end Kept

/-- Whether trees are the given items one after the other: each has its attributes, then perhaps a
visibility, and the next one starts where it ends. -/
inductive Follow (grammar : Grammar) : Tokens → List WrittenItem → Prop
  | nil : Follow grammar [] []
  | cons {written : WrittenItem} {others : List WrittenItem}
    {tokens afterAttributes visible rest : Tokens} {phrase : ItemPhrase}
    (attributes : outerAttributes (step grammar) tokens =
      some (written.attributes, afterAttributes))
    (visibility : Grammar.visibility afterAttributes = some (visible, written.trees))
    (exposed : written.exposed = !visible.isEmpty)
    (taken : visibleItem grammar written.attributes written.exposed written.trees =
      some (phrase, rest))
    (further : Follow grammar rest others) : Follow grammar tokens (written :: others)

/-- Whether a source file with the given trees consists of items, after the attributes of its
own. -/
def MakeUp (text : List Char) (tokens : Tokens) (items : List WrittenItem) : Prop :=
  readTokens? (withoutInterpreter (withoutByteOrderMark text)) = some tokens ∧
    ∃ inner rest, innerAttributes (forTokens tokens) tokens = some (inner, rest) ∧
      Follow (forItems tokens) rest items

/-- Items that are read one after the other are what is kept of those that follow each other. -/
theorem exists_follow_of_reads {rest : Tokens} (reads : Reads (do
      return (← (step grammar).item (← outerAttributes (step grammar))).item) tokens items rest)
    (isEnd : rest = []) :
    ∃ written, Follow grammar tokens written ∧ List.Forall₂ (KeptAs grammar) written items := by
  induction reads with
  | nil =>
    rw [isEnd]
    exact ⟨[], .nil, .nil⟩
  | cons first _ ih =>
    rcases ih isEnd with ⟨others, follow, kept⟩
    rcases bind_eq_some first with ⟨attributes, afterAttributes, attributesRead, itemRead⟩
    rcases bind_eq_some itemRead with ⟨phrase, left, phraseRead, ⟨⟩⟩
    rcases bind_eq_some phraseRead with ⟨visible, trees, visibilityRead, afterVisibility⟩
    rcases bind_eq_some afterVisibility with ⟨plain, _, taken, ⟨⟩⟩
    have firstKept : KeptAs grammar ⟨attributes, !visible.isEmpty, trees⟩ plain.item :=
      keptAs_of_visibleItem taken
    exact ⟨⟨attributes, !visible.isEmpty, trees⟩ :: others,
      .cons attributesRead visibilityRead rfl taken follow, .cons firstKept kept⟩

/-- The items of a source file are what is kept of the items that make it up. -/
theorem exists_makeUp_of_items? {text : List Char} (read : items? text = some items) :
    ∃ tokens written, MakeUp text tokens written ∧
      List.Forall₂ (KeptAs (forItems tokens)) written items := by
  rcases Option.bind_eq_some_iff.1 read with ⟨tokens, trees, all⟩
  rw [whole_eq_some] at all
  rcases bind_eq_some all with ⟨inner, rest, innerRead, repeated⟩
  rw [forTokens_eq] at repeated
  rcases exists_follow_of_reads (reads_of_repeat repeated) rfl with ⟨written, follow, kept⟩
  exact ⟨tokens, written, ⟨trees, inner, rest, innerRead, follow⟩, kept⟩

end WrittenItem

end Registrar.Source
