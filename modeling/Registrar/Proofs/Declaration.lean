import Mathlib.Logic.Relation
import Registrar.Proofs.Source.Items
import Registrar.Scope

/-!
# What a scan depends on

A scan gives the marked declarations of a file in order, each with the functions that the file
implements for its bare name. It depends on nothing but the declarations and, for each of their
names, the blocks of functions for that name; all else may be put in, taken out or moved.
-/

namespace Registrar

open Source (Attribute DeclarationKind Item Signature Tokens WrittenItem)

namespace Source.Item

variable {items others : List Item} {item : Item} {name : String}

/-- Whether an item declares a struct or an enum. -/
def isDeclaration : Item → Bool
  | .declaration .. => true
  | _ => false

/-- The blocks of functions for the given name, in order. -/
def blocksOf (name : String) (items : List Item) : List (List Signature) :=
  items.filterMap fun
    | .functions owner signatures => if owner = name then some signatures else none
    | _ => none

/-- Whether an item is a declaration that carries a marker: an attribute with a path that ends in
the name of one. -/
def IsMarked (markers : MarkerNames) : Item → Prop
  | .declaration _ attributes _ _ => ∃ marker ∈ attributes,
      ∃ name ∈ [markers.encodable, markers.serializer, markers.deserializer],
        marker.path.lastName? = some name
  | _ => False

instance (markers : MarkerNames) : DecidablePred (IsMarked markers)
  | .declaration _ attributes _ _ => inferInstanceAs (Decidable (∃ marker ∈ attributes,
      ∃ name ∈ [markers.encodable, markers.serializer, markers.deserializer],
        marker.path.lastName? = some name))
  | .functions _ _ => inferInstanceAs (Decidable False)
  | .other => inferInstanceAs (Decidable False)

/-- Whether an item is nothing that a scan of the given items looks at: neither a declaration nor
functions for the name of one. -/
def IsIdleAmong (items : List Item) : Item → Prop
  | .declaration .. => False
  | .functions owner _ => ∀ item ∈ items, ¬item.Declares owner
  | .other => True

/-- Whether an item may be moved past others: it is not a declaration, and where it holds functions
for a name, the others hold none for it. -/
def MayPass (others : List Item) : Item → Prop
  | .declaration .. => False
  | .functions owner _ => blocksOf owner others = []
  | .other => True

/-- A change to the items of a file: an idle item is put in or taken out, or an item is moved past
others. -/
inductive Edit : List Item → List Item → Prop
  | insert {before after : List Item} {item : Item} (idle : item.IsIdleAmong (before ++ after)) :
    Edit (before ++ after) (before ++ item :: after)
  | delete {before after : List Item} {item : Item} (idle : item.IsIdleAmong (before ++ after)) :
    Edit (before ++ item :: after) (before ++ after)
  | moveDown {before between after : List Item} {item : Item} (free : item.MayPass between) :
    Edit (before ++ item :: between ++ after) (before ++ between ++ item :: after)
  | moveUp {before between after : List Item} {item : Item} (free : item.MayPass between) :
    Edit (before ++ between ++ item :: after) (before ++ item :: between ++ after)

/-- Whether two lists of items have the same declarations and, for each name that is declared, the
same blocks of functions, all in order. -/
structure Alike (items others : List Item) : Prop where
  declarations : others.filter isDeclaration = items.filter isDeclaration
  blocks : ∀ item ∈ items, ∀ name, item.Declares name →
    blocksOf name others = blocksOf name items

theorem Declares.isDeclaration (declares : item.Declares name) : item.isDeclaration = true := by
  rcases declares with ⟨_, _, _, rfl⟩
  rfl

/-- Lists with the same declarations have each of them. -/
theorem Declares.mem (declares : item.Declares name)
    (same : others.filter Item.isDeclaration = items.filter Item.isDeclaration)
    (member : item ∈ others) :
    item ∈ items := by
  have kept : item ∈ others.filter Item.isDeclaration :=
    List.mem_filter.2 ⟨member, declares.isDeclaration⟩
  rw [same] at kept
  exact (List.mem_filter.1 kept).1

namespace Alike

theorem symm (alike : Alike items others) : Alike others items where
  declarations := alike.declarations.symm
  blocks := by
    intro item member name declares
    exact (alike.blocks item (declares.mem alike.declarations member) name declares).symm

theorem trans {further : List Item} (first : Alike items others) (second : Alike others further) :
    Alike items further where
  declarations := second.declarations.trans first.declarations
  blocks := by
    intro item member name declares
    have kept := declares.mem first.declarations.symm member
    exact (second.blocks item kept name declares).trans (first.blocks item member name declares)

end Alike

theorem blocksOf_append (name : String) (items others : List Item) :
    blocksOf name (items ++ others) = blocksOf name items ++ blocksOf name others :=
  List.filterMap_append

theorem blocksOf_cons (name : String) (item : Item) (others : List Item) :
    blocksOf name (item :: others) = blocksOf name [item] ++ blocksOf name others :=
  blocksOf_append name [item] others

/-- A list with an idle item more is alike. -/
theorem alike_of_insert {before after : List Item} (idle : item.IsIdleAmong (before ++ after)) :
    Alike (before ++ after) (before ++ item :: after) where
  declarations := by
    cases item with
    | declaration => cases idle
    | functions | other => simp [isDeclaration]
  blocks := by
    intro declared member name declares
    have adds : blocksOf name [item] = [] := by
      cases item with
      | functions owner signatures =>
        have foreign : owner ≠ name := by
          rintro rfl
          exact idle declared member declares
        simp [blocksOf, foreign]
      | declaration | other => rfl
    rw [blocksOf_append, blocksOf_append, blocksOf_cons, adds, List.nil_append]

/-- Of an item and those that it may be moved past, at most one side has blocks of a name. -/
theorem blocksOf_move {between : List Item} (free : item.MayPass between) :
    blocksOf name (between ++ [item]) = blocksOf name (item :: between) := by
  rw [blocksOf_append, blocksOf_cons name item between]
  cases item with
  | declaration => cases free
  | functions owner signatures =>
    have none : blocksOf owner between = [] := free
    by_cases own : owner = name
    · rw [← own, none, List.nil_append, List.append_nil]
    · have adds : blocksOf name [.functions owner signatures] = [] := by simp [blocksOf, own]
      rw [adds, List.nil_append, List.append_nil]
  | other => exact List.append_nil _

/-- A list in which an item is moved past others is alike. -/
theorem alike_of_move {before between after : List Item} (free : item.MayPass between) :
    Alike (before ++ item :: between ++ after) (before ++ between ++ item :: after) where
  declarations := by
    cases item with
    | declaration => cases free
    | functions | other => simp [isDeclaration]
  blocks := by
    intro _ _ name _
    have behind : before ++ between ++ item :: after = before ++ (between ++ [item]) ++ after := by
      simp
    rw [behind, blocksOf_append, blocksOf_append, blocksOf_move free, ← blocksOf_append,
      ← blocksOf_append]

theorem alike_of_edit (edit : Edit items others) : Alike items others := by
  cases edit with
  | insert idle => exact alike_of_insert idle
  | delete idle => exact (alike_of_insert idle).symm
  | moveDown free => exact alike_of_move free
  | moveUp free => exact (alike_of_move free).symm

theorem alike_of_edits (edits : Relation.ReflTransGen Edit items others) : Alike items others := by
  induction edits with
  | refl => exact ⟨rfl, fun _ _ _ _ => rfl⟩
  | tail _ edit ih => exact ih.trans (alike_of_edit edit)

end Source.Item

namespace MarkedDeclaration

open Source.Item

variable {markers : MarkerNames} {items others : List Item}

theorem carries_iff {name : String} {marker : Attribute} :
    carries name marker = true ↔ marker.path.lastName? = some name :=
  beq_iff_eq

theorem not_carries_iff {name : String} {marker : Attribute} :
    carries name marker = false ↔ marker.path.lastName? ≠ some name := by
  rw [← Bool.not_eq_true, carries_iff]

theorem find?_carries_eq_some_iff {name : String} {attributes : List Attribute}
    {marker : Attribute} :
    attributes.find? (carries name) = some marker ↔
      ∃ before after, attributes = before ++ marker :: after ∧
        marker.path.lastName? = some name ∧
          ∀ earlier ∈ before, earlier.path.lastName? ≠ some name := by
  simp only [List.find?_eq_some_iff_append, Bool.not_eq_true', carries_iff, not_carries_iff]
  constructor
  · rintro ⟨marks, before, after, split, others⟩
    exact ⟨before, after, split, marks, others⟩
  · rintro ⟨before, after, split, marks, others⟩
    exact ⟨marks, before, after, split, others⟩

/-- The functions of a type are those of all its blocks. -/
theorem functionsOf_eq (name : String) (items : List Item) :
    functionsOf name items = (blocksOf name items).flatten.map FunctionShape.ofSignature := by
  induction items with
  | nil => rfl
  | cons item others ih =>
    rw [blocksOf_cons, List.flatten_append, List.map_append, ← ih, functionsOf, List.flatMap_cons,
      ← functionsOf]
    congr 1
    cases item with
    | functions owner signatures =>
      by_cases own : owner = name <;> simp [blocksOf, own]
    | declaration | other => rfl

/-- Whether a marked declaration has what is written of it: `encodable` is the first attribute with
that marker, and the functions are those of all blocks for its name. -/
structure Describes (markers : MarkerNames) (items : List Item) (attributes : List Attribute)
    (generics : Tokens) (declaration : MarkedDeclaration) : Prop where
  encodable : ∀ marker, declaration.encodable = some marker ↔
    ∃ before after, attributes = before ++ marker :: after ∧
      marker.path.lastName? = some markers.encodable ∧
        ∀ earlier ∈ before, earlier.path.lastName? ≠ some markers.encodable
  serializer : declaration.serializer = true ↔
    ∃ marker ∈ attributes, marker.path.lastName? = some markers.serializer
  deserializer : declaration.deserializer = true ↔
    ∃ marker ∈ attributes, marker.path.lastName? = some markers.deserializer
  generics : declaration.generics = genericsText generics
  functions : declaration.functions =
    (blocksOf declaration.name items).flatten.map FunctionShape.ofSignature

/-- Whether a marked declaration is what a scan makes of an item. -/
def IsMadeOf (markers : MarkerNames) (items : List Item) (item : Item)
    (declaration : MarkedDeclaration) : Prop :=
  ∃ attributes generics,
    item = .declaration declaration.kind attributes declaration.name generics ∧
      declaration.Describes markers items attributes generics

theorem isMadeOf_of_ofItem? {item : Item} {declaration : MarkedDeclaration}
    (made : ofItem? markers items item = some declaration) :
    declaration.IsMadeOf markers items item := by
  cases item with
  | declaration kind attributes name generics =>
    unfold ofItem? at made
    dsimp only at made
    split at made
    · cases made
    · rcases made with ⟨⟩
      exact ⟨attributes, generics, rfl, {
        encodable := by
          intro marker
          exact find?_carries_eq_some_iff
        serializer := by simp [carries_iff]
        deserializer := by simp [carries_iff]
        generics := rfl
        functions := functionsOf_eq name items }⟩
  | functions | other => cases made

theorem isSome_ofItem?_iff {item : Item} :
    (ofItem? markers items item).isSome = true ↔ item.IsMarked markers := by
  cases item with
  | declaration kind attributes name generics =>
    have unmarked : ((attributes.find? (carries markers.encodable)).isNone &&
        !attributes.any (carries markers.serializer) &&
          !attributes.any (carries markers.deserializer)) = true ↔
        ¬(Item.declaration kind attributes name generics).IsMarked markers := by
      simp only [Bool.and_eq_true, Option.isNone_iff_eq_none, List.find?_eq_none,
        Bool.not_eq_true', List.any_eq_false, carries_iff, IsMarked]
      grind
    rw [ofItem?]
    split
    · rename_i isUnmarked
      simpa using unmarked.1 isUnmarked
    · rename_i isMarked
      simpa using mt unmarked.2 isMarked
  | functions | other => simp [ofItem?, IsMarked]

/-- What a scan finds is made of the marked items, in order. -/
theorem forall₂_filterMap_ofItem? (markers : MarkerNames) (items considered : List Item) :
    List.Forall₂ (fun item declaration => declaration.IsMadeOf markers items item)
      (considered.filter fun item => item.IsMarked markers)
      (considered.filterMap (ofItem? markers items)) := by
  induction considered with
  | nil => exact .nil
  | cons item others ih =>
    rcases made : ofItem? markers items item with _ | declaration
    · have unmarked : ¬item.IsMarked markers := by
        rw [← @isSome_ofItem?_iff markers items, made]
        exact Bool.false_ne_true
      rw [List.filterMap_cons_none made, List.filter_cons_of_neg (by simpa using unmarked)]
      exact ih
    · have marked : item.IsMarked markers := by
        rw [← @isSome_ofItem?_iff markers items, made]
        rfl
      rw [List.filterMap_cons_some made, List.filter_cons_of_pos (by simpa using marked)]
      exact .cons (isMadeOf_of_ofItem? made) ih

theorem ofItems_eq_filterMap (markers : MarkerNames) (items : List Item) :
    ofItems markers items = (items.filter isDeclaration).filterMap (ofItem? markers items) := by
  rw [List.filterMap_filter]
  apply List.filterMap_congr
  intro item _
  cases item <;> rfl

/-- Items that are alike have the same marked declarations. -/
theorem ofItems_eq_of_alike (alike : Alike items others) :
    ofItems markers others = ofItems markers items := by
  rw [ofItems_eq_filterMap, ofItems_eq_filterMap, alike.declarations]
  apply List.filterMap_congr
  intro item member
  cases item with
  | declaration kind attributes name generics =>
    have blocks : blocksOf name others = blocksOf name items :=
      alike.blocks _ (List.mem_filter.1 member).1 name ⟨kind, attributes, generics, rfl⟩
    simp only [ofItem?, functionsOf_eq, blocks]
  | functions | other => rfl

/-- Scanning is local. The items of a source file are what is kept of the items that make it up. A
scan finds the marked ones among the declarations, in order, each with the functions of all blocks
for its name. And however idle items are put in, taken out or moved, and blocks are moved without a
change to the order of those for one name, a file with the items that this gives is scanned alike,
and judged alike unless only one of the two says that it is generated. -/
theorem scan_is_local (scope : Scope) {text : String}
    (read : Source.items? text.toList = some items) :
    (∃ tokens written, WrittenItem.MakeUp text.toList tokens written ∧
      List.Forall₂ (WrittenItem.KeptAs (.forItems tokens)) written items) ∧
    (∃ declarations, scan? scope.markers text.toList = some declarations ∧
      List.Forall₂ (fun item declaration => declaration.IsMadeOf scope.markers items item)
        (items.filter fun item => item.IsMarked scope.markers) declarations) ∧
    ∀ edited others, Relation.ReflTransGen Edit items others →
      Source.items? edited.toList = some others →
        scan? scope.markers edited.toList = scan? scope.markers text.toList ∧
          ∀ module, Header.isGenerated edited.toList = Header.isGenerated text.toList →
            scope.examineText module edited = scope.examineText module text := by
  refine ⟨WrittenItem.exists_makeUp_of_items? read, ⟨ofItems scope.markers items, ?_, ?_⟩, ?_⟩
  · rw [scan?, read, Option.map_some]
  · exact forall₂_filterMap_ofItem? scope.markers items items
  · intro edited others edits readEdited
    have same : scan? scope.markers edited.toList = scan? scope.markers text.toList := by
      rw [scan?, scan?, read, readEdited, Option.map_some, Option.map_some,
        ofItems_eq_of_alike (alike_of_edits edits)]
    refine ⟨same, ?_⟩
    intro module sameHeader
    rw [Scope.examineText, Scope.examineText, same, sameHeader]

end MarkedDeclaration

namespace Sample

/-- A file in which the functions of a declaration stand before it, beside a module. -/
def scattered : String :=
  "impl A\x7bfn a()\x7b\x7d\x7dmod m\x7bstruct A;\x7d#[encodable]struct A;"

/-- The file has the one declaration, however its other items are arranged. -/
theorem scan_is_local_scattered :
    ∃ items, Source.items? scattered.toList = some items ∧
      (∃ declarations, MarkedDeclaration.scan? .standard scattered.toList = some declarations ∧
        declarations.map (fun declaration => (declaration.name, declaration.functions)) =
          [("A", [⟨"a", false, [], none⟩])]) ∧
      ∀ (edited : String) others, Relation.ReflTransGen Item.Edit items others →
        Source.items? edited.toList = some others →
          MarkedDeclaration.scan? .standard edited.toList =
            MarkedDeclaration.scan? .standard scattered.toList := by
  have isSource : (Source.items? scattered.toList).isSome = true := by decide +kernel
  rcases Option.isSome_iff_exists.1 isSource with ⟨items, read⟩
  rcases MarkedDeclaration.scan_is_local ⟨.standard, .standard, ⟨"src"⟩, "crate"⟩ read with
    ⟨_, ⟨declarations, scanned, _⟩, unchanged⟩
  have shown : (MarkedDeclaration.scan? .standard scattered.toList).map (List.map fun declaration =>
      (declaration.name, declaration.functions)) = some [("A", [⟨"a", false, [], none⟩])] := by
    decide +kernel
  rw [scanned, Option.map_some, Option.some.injEq] at shown
  exact ⟨items, read, ⟨declarations, scanned, shown⟩, fun edited others edits readEdited =>
    (unchanged edited others edits readEdited).1⟩

end Sample

end Registrar
