import Registrar.Proofs.Source.Suffix.Expression

/-!
# What items leave
-/

namespace Registrar.Source.Grammar

open Reader LeavesEnd

-- The readers of items with many optional parts are made of several thousand readers.
set_option synthInstance.maxSize 16384

instance : LeavesEnd visibility := by
  unfold visibility
  apply of_bind
  intro tokens
  split
  · infer_instance
  · apply of_bind
    intro keyword
    apply of_get
    intro tokens
    split
    · split
      · split
        · apply leavesEndOf_set
          exact List.suffix_cons _ _
        · exact leavesEndOf _
      · split
        · apply leavesEndOf_set
          exact List.suffix_cons _ _
        · exact leavesEndOf _
      · exact leavesEndOf _
    · exact leavesEndOf _

instance (rootAllowed : Bool) (depth : Nat) : LeavesEnd (useTreeWithin rootAllowed depth) := by
  induction depth generalizing rootAllowed with
  | zero =>
    unfold useTreeWithin
    infer_instance
  | succ depth shallower =>
    unfold useTreeWithin
    infer_instance

instance : LeavesEnd useItem := by
  unfold useItem
  infer_instance

instance : LeavesEnd externCrateItem := by
  unfold externCrateItem
  infer_instance

instance : LeavesEnd macroItem := by
  unfold macroItem
  have body : ∀ group : Delimiter × Tokens, ∀ read : Tokens, LeavesEnd (match group with
      | (.brace, content) => pure (read ++ [.group .brace content])
      | _ => failure : Reader Tokens) := by
    intro group read
    split <;> infer_instance
  apply of_bind
  intro keyword
  apply of_bind
  intro defined
  infer_instance

instance : LeavesEnd macroCallItem := by
  unfold macroCallItem
  infer_instance

variable (grammar : Grammar)

instance : LeavesEnd (namedFields grammar) := by
  unfold namedFields
  infer_instance

instance : LeavesEnd (placedFields grammar) := by
  unfold placedFields
  infer_instance

instance {α : Type} (member : Reader α) : LeavesEnd (members grammar member) := by
  unfold members
  infer_instance

instance : LeavesEnd (moduleItem grammar) := by
  unfold moduleItem
  infer_instance

instance : LeavesEnd (foreignItem grammar) := by
  unfold foreignItem
  infer_instance

variable [LeavesEnds grammar]

instance (safeAllowed : Bool) : LeavesEnd (signature grammar safeAllowed) := by
  unfold signature
  infer_instance

instance : LeavesEnd (functionItem grammar) := by
  unfold functionItem
  infer_instance

instance : LeavesEnd (optionalInitializer grammar) := by
  unfold optionalInitializer
  infer_instance

instance : LeavesEnd (staticItem grammar) := by
  unfold staticItem
  infer_instance

instance : LeavesEnd (constItem grammar) := by
  unfold constItem
  infer_instance

instance (ends : Tokens → Bool) : LeavesEnd (optionalBounds grammar ends) := by
  unfold optionalBounds
  infer_instance

instance (place : ConditionPlace) : LeavesEnd (typeItem grammar place) := by
  unfold typeItem
  infer_instance

instance (attributes : List Attribute) : LeavesEnd (structItem grammar attributes) := by
  unfold structItem
  infer_instance

instance (attributes : List Attribute) : LeavesEnd (enumItem grammar attributes) := by
  unfold enumItem
  infer_instance

instance : LeavesEnd (unionItem grammar) := by
  unfold unionItem
  infer_instance

instance : LeavesEnd (traitItem grammar) := by
  unfold traitItem
  infer_instance

instance (exposed : Bool) : LeavesEnd (implementationItem grammar exposed) := by
  unfold implementationItem
  infer_instance

instance (attributes : List Attribute) (exposed : Bool) :
    LeavesEnd (visibleItem grammar attributes exposed) := by
  unfold visibleItem
  infer_instance

instance (attributes : List Attribute) : LeavesEnd (itemPhrase grammar attributes) := by
  unfold itemPhrase
  infer_instance

end Registrar.Source.Grammar
