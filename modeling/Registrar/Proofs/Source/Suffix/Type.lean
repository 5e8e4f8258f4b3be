import Registrar.Proofs.Source.Suffix.Reader

/-!
# What paths, bounds and types leave
-/

namespace Registrar.Source

/-- The recursive readers that pieces of syntax go on with leave the end of what they are given. The
readers of statements and items are missing: pieces of syntax only use them inside groups. -/
class Grammar.LeavesEnds (grammar : Grammar) : Prop where
  typeExpr : ∀ plusAllowed, Reader.LeavesEnd (grammar.typeExpr plusAllowed)
  bound : ∀ captureAllowed conditionAllowed,
    Reader.LeavesEnd (grammar.bound captureAllowed conditionAllowed)
  operand : ∀ structAllowed, Reader.LeavesEnd (grammar.operand structAllowed)
  operators : ∀ left structAllowed base,
    Reader.LeavesEnd (grammar.operators left structAllowed base)
  pattern : Reader.LeavesEnd grammar.pattern

namespace Grammar

open Reader LeavesEnd

attribute [instance] LeavesEnds.typeExpr LeavesEnds.bound LeavesEnds.operand LeavesEnds.operators
  LeavesEnds.pattern

instance : LeavesEnds nothing where
  typeExpr _ := inferInstanceAs (LeavesEnd failure)
  bound _ _ := inferInstanceAs (LeavesEnd failure)
  operand _ := inferInstanceAs (LeavesEnd failure)
  operators _ _ _ := inferInstanceAs (LeavesEnd failure)
  pattern := inferInstanceAs (LeavesEnd failure)

instance : LeavesEnd plainPath := by
  unfold plainPath
  infer_instance

instance : LeavesEnd macroBody := by
  unfold macroBody
  infer_instance

instance (ends : Tokens → Bool) : LeavesEnd (lifetimeSum ends) := by
  unfold lifetimeSum
  infer_instance

instance : LeavesEnd lifetimeParameter := by
  unfold lifetimeParameter
  infer_instance

instance : LeavesEnd capture := by
  unfold capture
  infer_instance

instance : LeavesEnd optionalConvention := by
  unfold optionalConvention
  infer_instance

instance (value : Reader Tokens) [LeavesEnd value] : LeavesEnd (optionalDefault value) := by
  unfold optionalDefault
  infer_instance

-- The longest readers are made of several hundred readers.
set_option synthInstance.maxSize 4096

section Recursive

variable (grammar : Grammar)

instance : LeavesEnd (outerAttribute grammar) := by
  unfold outerAttribute
  infer_instance

instance : LeavesEnd (outerAttributes grammar) := by
  unfold outerAttributes
  infer_instance

instance : LeavesEnd (outerTokens grammar) := by
  unfold outerTokens
  infer_instance

instance : LeavesEnd (innerAttributes grammar) := by
  unfold innerAttributes
  infer_instance

instance : LeavesEnd (block grammar) := by
  unfold block
  infer_instance

instance : LeavesEnd (attributedBlock grammar) := by
  unfold attributedBlock
  infer_instance

instance : LeavesEnd (constArgument grammar) := by
  unfold constArgument
  infer_instance

instance : LeavesEnd (bracketedType grammar) := by
  unfold bracketedType
  infer_instance

variable [LeavesEnds grammar]

instance (plusAllowed : Bool) : LeavesEnd (grammar.typeTokens plusAllowed) := by
  unfold typeTokens
  infer_instance

instance (structAllowed : Bool) : LeavesEnd (grammar.expression structAllowed) := by
  unfold expression
  infer_instance

instance : LeavesEnd grammar.expressionTokens := by
  unfold expressionTokens
  infer_instance

instance (ends : Tokens → Bool) : LeavesEnd (boundSum grammar ends) := by
  unfold boundSum
  infer_instance

instance : LeavesEnd (genericArgument grammar) := by
  unfold genericArgument
  infer_instance

instance : LeavesEnd (angleArguments grammar) := by
  unfold angleArguments
  infer_instance

instance (inExpression : Bool) : LeavesEnd (segment grammar inExpression) := by
  unfold segment
  infer_instance

instance (inExpression : Bool) : LeavesEnd (path grammar inExpression) := by
  unfold path
  infer_instance

instance (inExpression : Bool) : LeavesEnd (qualifiedPath grammar inExpression) := by
  unfold qualifiedPath
  infer_instance

instance : LeavesEnd (typeParameter grammar) := by
  unfold typeParameter
  infer_instance

instance : LeavesEnd (constParameter grammar) := by
  unfold constParameter
  infer_instance

instance : LeavesEnd (genericParameter grammar) := by
  unfold genericParameter
  infer_instance

instance : LeavesEnd (binder grammar) := by
  unfold binder
  infer_instance

instance : LeavesEnd (optionalBinder grammar) := by
  unfold optionalBinder
  infer_instance

instance (plusAllowed : Bool) : LeavesEnd (optionalResult grammar plusAllowed) := by
  unfold optionalResult
  infer_instance

instance : LeavesEnd (parenthesizedArguments grammar) := by
  unfold parenthesizedArguments
  infer_instance

instance (conditionAllowed : Bool) : LeavesEnd (traitBound grammar conditionAllowed) := by
  unfold traitBound
  infer_instance

instance (captureAllowed conditionAllowed : Bool) :
    LeavesEnd (boundPhrase grammar captureAllowed conditionAllowed) := by
  unfold boundPhrase
  infer_instance

instance (plusAllowed captureAllowed conditionAllowed : Bool) :
    LeavesEnd (bounds grammar plusAllowed captureAllowed conditionAllowed) := by
  unfold bounds
  infer_instance

instance (mayEndOpen : Bool) : LeavesEnd (furtherBounds grammar mayEndOpen) := by
  unfold furtherBounds
  infer_instance

instance : LeavesEnd (bareFunction grammar) := by
  unfold bareFunction
  infer_instance

instance : LeavesEnd (pointerType grammar) := by
  unfold pointerType
  infer_instance

instance : LeavesEnd (referenceType grammar) := by
  unfold referenceType
  infer_instance

instance (plusAllowed : Bool) : LeavesEnd (parenthesizedType grammar plusAllowed) := by
  unfold parenthesizedType
  apply of_bind
  rintro (content | bound | content)
  · infer_instance
  · infer_instance
  · dsimp only
    split <;> infer_instance

instance (plusAllowed : Bool) (binder : Tokens) :
    LeavesEnd (pathType grammar plusAllowed binder) := by
  unfold pathType
  apply of_bind
  rintro (path | tokens)
  · infer_instance
  · infer_instance

instance (plusAllowed : Bool) : LeavesEnd (typePhrase grammar plusAllowed) := by
  unfold typePhrase
  infer_instance

instance : LeavesEnd (generics grammar) := by
  unfold generics
  infer_instance

instance : LeavesEnd (condition grammar) := by
  unfold condition
  infer_instance

instance : LeavesEnd (conditions? grammar) := by
  unfold conditions?
  infer_instance

instance : LeavesEnd (conditions grammar) := by
  unfold conditions
  infer_instance

end Recursive

end Grammar

end Registrar.Source
