import Registrar.Proofs.Source.Items
import Registrar.Proofs.Source.Suffix.Item
import Registrar.Proofs.Source.Words

/-!
# The names of declarations

The name of every declaration at the top level of a source file is a word among the trees of the
file, since every reader takes its trees from the front.
-/

namespace Registrar.Source

namespace Grammar

open Reader

instance leavesEnds_ofDepth (depth : Nat) : LeavesEnds (ofDepth depth) := by
  induction depth with
  | zero => exact inferInstanceAs (LeavesEnds nothing)
  | succ depth shallower =>
    constructor
    · intro plusAllowed
      exact inferInstanceAs (LeavesEnd (typePhrase (ofDepth depth) plusAllowed))
    · intro captureAllowed conditionAllowed
      exact inferInstanceAs
        (LeavesEnd (boundPhrase (ofDepth depth) captureAllowed conditionAllowed))
    · intro structAllowed
      exact inferInstanceAs (LeavesEnd (operandPhrase (ofDepth depth) structAllowed))
    · intro left structAllowed base
      exact inferInstanceAs (LeavesEnd (operatorChain (ofDepth depth) left structAllowed base))
    · exact inferInstanceAs (LeavesEnd (patternPhrase (ofDepth depth)))

instance (tokens : Tokens) : LeavesEnds (forItems tokens) :=
  inferInstanceAs (LeavesEnds (ofDepth _))

end Grammar

namespace WrittenItem

open Grammar Reader

variable {grammar : Grammar} {tokens : Tokens} {written : WrittenItem} {items : List WrittenItem}

/-- The trees of an item are an end of those that it is one of the items of. -/
theorem Follow.trees_suffix [LeavesEnds grammar] (follow : Follow grammar tokens items)
    (member : written ∈ items) : written.trees <:+ tokens := by
  induction follow with
  | nil => cases member
  | cons attributes visibility _ taken _ ih =>
    have within := (LeavesEnd.suffix visibility).trans (LeavesEnd.suffix attributes)
    rcases List.mem_cons.1 member with rfl | later
    · exact within
    · exact (ih later).trans ((LeavesEnd.suffix taken).trans within)

theorem exists_keptAs_of_mem {kept : List Item} {item : Item}
    (keptAs : List.Forall₂ (KeptAs grammar) items kept) (member : item ∈ kept) :
    ∃ written ∈ items, written.KeptAs grammar item := by
  induction keptAs with
  | nil => cases member
  | cons first _ ih =>
    rcases List.mem_cons.1 member with rfl | later
    · exact ⟨_, List.mem_cons_self, first⟩
    · rcases ih later with ⟨written, among, isKept⟩
      exact ⟨written, List.mem_cons_of_mem _ among, isKept⟩

end WrittenItem

open Reader WrittenItem in
/-- The name of a declaration is made like a word. -/
theorem isWordText_of_mem_items? {text : List Char} {items : List Item} {item : Item}
    {name : String} (read : items? text = some items) (member : item ∈ items)
    (declares : item.Declares name) : IsWordText name := by
  rcases declares with ⟨kind, attributes, generics, isDeclaration⟩
  rcases exists_makeUp_of_items? read with
    ⟨tokens, written, ⟨trees, inner, rest, own, follow⟩, kept⟩
  rcases exists_keptAs_of_mem kept member with ⟨declared, among, isKept⟩
  rcases (isKept.declaration _ _ _ _).1 isDeclaration with ⟨_, afterName, left, starts, _⟩
  apply isWordText_of_mem_tokenTrees? trees
  apply ((follow.trees_suffix among).trans (LeavesEnd.suffix own)).subset
  rw [starts]
  exact List.mem_cons_of_mem _ List.mem_cons_self

end Registrar.Source
