import Registrar.Proofs.Source.Suffix.Type

/-!
# What patterns and expressions leave
-/

namespace Registrar.Source.Grammar

open Reader LeavesEnd

-- The longest readers are made of several hundred readers.
set_option synthInstance.maxSize 4096

instance : LeavesEnd placeNumber := by
  unfold placeNumber
  apply of_get
  intro tokens
  split
  · split
    · apply leavesEndOf_require
      apply leavesEndOf_set
      exact List.suffix_cons _ _
    · exact leavesEndOf _
  · exact leavesEndOf _

instance (oldAllowed : Bool) : LeavesEnd (rangeMark oldAllowed) := by
  unfold rangeMark
  infer_instance

instance : LeavesEnd builtinExpression := by
  unfold builtinExpression
  apply of_bind
  intro keyword
  apply of_bind
  intro hash
  apply of_bind
  intro operation
  apply of_bind
  intro group
  split <;> infer_instance

variable (grammar : Grammar)

instance : LeavesEnd (arrayExpression grammar) := by
  unfold arrayExpression
  infer_instance

variable [LeavesEnds grammar]

instance : LeavesEnd (rangeBound grammar) := by
  unfold rangeBound
  infer_instance

instance (start : Tokens) : LeavesEnd (rangeAfter grammar start) := by
  unfold rangeAfter
  infer_instance

instance : LeavesEnd (rangeWithoutStart grammar) := by
  unfold rangeWithoutStart
  infer_instance

instance : LeavesEnd (alternatives grammar) := by
  unfold alternatives
  infer_instance

instance : LeavesEnd (alternativeTokens grammar) := by
  unfold alternativeTokens
  infer_instance

instance : LeavesEnd (pathPattern grammar) := by
  unfold pathPattern
  infer_instance

instance : LeavesEnd (namePattern grammar) := by
  unfold namePattern
  infer_instance

instance : LeavesEnd (patternPhrase grammar) := by
  unfold patternPhrase
  infer_instance

instance (structAllowed : Bool) (precedence : Precedence) :
    LeavesEnd (rightOperand grammar structAllowed precedence) := by
  unfold rightOperand
  infer_instance

instance (structAllowed : Bool) : LeavesEnd (rangeTail grammar structAllowed) := by
  unfold rangeTail
  infer_instance

instance (structAllowed : Bool) (base : Precedence) (left : ExprPhrase) :
    LeavesEnd (operatorStep grammar structAllowed base left) := by
  unfold operatorStep
  split
  · infer_instance
  · apply of_bind
    intro tokens
    split <;> infer_instance

instance (left : ExprPhrase) (structAllowed : Bool) (base : Precedence) :
    LeavesEnd (operatorChain grammar left structAllowed base) := by
  unfold operatorChain
  infer_instance

instance (receiver dot : Tokens) : LeavesEnd (fieldAfter grammar receiver dot) := by
  unfold fieldAfter
  infer_instance

instance (operand : ExprPhrase) : LeavesEnd (suffixStep grammar operand) := by
  unfold suffixStep
  apply of_bind
  intro tokens
  split
  · infer_instance
  · split
    · apply of_bind
      intro dot
      apply of_get
      intro tokens
      split
      · split
        · split
          · exact leavesEndOf _
          · apply leavesEndOf_set
            exact List.suffix_cons _ _
        · exact leavesEndOf _
      · exact leavesEndOf _
    · infer_instance

instance (operand : ExprPhrase) : LeavesEnd (suffixes grammar operand) := by
  unfold suffixes
  infer_instance

instance (structAllowed : Bool) : LeavesEnd (pathExpression grammar structAllowed) := by
  unfold pathExpression
  infer_instance

instance : LeavesEnd (headExpression grammar) := by
  unfold headExpression
  infer_instance

instance : LeavesEnd (ifExpression grammar) := by
  unfold ifExpression
  infer_instance

instance : LeavesEnd (whileExpression grammar) := by
  unfold whileExpression
  infer_instance

instance : LeavesEnd (forExpression grammar) := by
  unfold forExpression
  infer_instance

instance : LeavesEnd (loopExpression grammar) := by
  unfold loopExpression
  infer_instance

instance : LeavesEnd (matchExpression grammar) := by
  unfold matchExpression
  infer_instance

instance : LeavesEnd (labeledExpression grammar) := by
  unfold labeledExpression
  infer_instance

instance : LeavesEnd (closureParameter grammar) := by
  unfold closureParameter
  infer_instance

instance (structAllowed : Bool) : LeavesEnd (closureExpression grammar structAllowed) := by
  unfold closureExpression
  infer_instance

instance (structAllowed : Bool) : LeavesEnd (optionalValue grammar structAllowed) := by
  unfold optionalValue
  infer_instance

instance (structAllowed : Bool) : LeavesEnd (breakExpression grammar structAllowed) := by
  unfold breakExpression
  infer_instance

instance (structAllowed : Bool) : LeavesEnd (letExpression grammar structAllowed) := by
  unfold letExpression
  infer_instance

theorem leavesEnd_of_blockExpression? {tokens : Tokens} {reader : Reader Tokens}
    (starts : blockExpression? grammar tokens = some reader) : LeavesEnd reader := by
  unfold blockExpression? at starts
  repeat' split at starts
  all_goals rcases starts with ⟨⟩
  all_goals infer_instance

instance (structAllowed : Bool) : LeavesEnd (atom grammar structAllowed) := by
  unfold atom
  have blocks : ∀ tokens, LeavesEnd (match blockExpression? grammar tokens with
      | some reader => do return ⟨← reader, .blockLike⟩
      | none => failure : Reader ExprPhrase) := by
    intro tokens
    split
    case h_1 reader starts =>
      have ends := leavesEnd_of_blockExpression? grammar starts
      infer_instance
    case h_2 => infer_instance
  infer_instance

instance (attributes : Tokens) (structAllowed : Bool) :
    LeavesEnd (suffixedAtom grammar attributes structAllowed) := by
  unfold suffixedAtom
  infer_instance

instance (structAllowed : Bool) : LeavesEnd (operandPhrase grammar structAllowed) := by
  unfold operandPhrase
  infer_instance

end Registrar.Source.Grammar
