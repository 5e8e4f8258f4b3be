import Registrar.Source.Grammar.Item

/-!
# The grammar

The readers of the pieces of syntax refer to each other through a `Grammar`. `Grammar.ofDepth` ties
them together to any depth of nesting, and `Grammar.forTokens` goes deep enough for the trees at
hand: between two readers that each take a tree, the readers call each other at most as often as
there are kinds of them.
-/

namespace Registrar.Source.Grammar

/-- The grammar whose recursive readers are those of another one. -/
def step (grammar : Grammar) : Grammar where
  typeExpr := typePhrase grammar
  bound := boundPhrase grammar
  operand := operandPhrase grammar
  operators := operatorChain grammar
  leading := leadingExpression grammar
  pattern := patternPhrase grammar
  statements := statementSequence grammar
  item := itemPhrase grammar

/-- The grammar for what is nested no deeper than the given number. -/
def ofDepth : Nat → Grammar
  | 0 => nothing
  | depth + 1 => step (ofDepth depth)

/-- The grammar to a depth that is enough for the given trees. -/
def forTokens (tokens : Tokens) : Grammar :=
  ofDepth (8 * (treeCount tokens + 1))

end Registrar.Source.Grammar
