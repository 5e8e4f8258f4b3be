import Registrar.Source.Grammar.Expression

/-!
# Statements

A statement binds a pattern, declares an item or evaluates an expression. An expression needs a
semicolon after it unless it ends with a block or is the last of its block.
-/

namespace Registrar.Source.Grammar

open Reader

/-- Whether the last tree of an expression is a group in braces. -/
def endsWithBrace (tokens : Tokens) : Bool :=
  tokens.getLast?.any TokenTree.isBraceGroup

/-- The binding of a pattern after its attributes. -/
def letStatement (grammar : Grammar) : Reader Tokens := do
  let keyword ← word "let"
  let pattern ← grammar.pattern
  let annotation ←
    if (← get).atMark .colon then
      let colon ← mark .colon
      pure (colon ++ (← grammar.typeTokens true))
    else pure []
  let value ←
    if (← get).atMark .equals then
      let equals ← mark .equals
      let value ← grammar.expressionTokens
      if !endsWithBrace value && (← get).atWord "else" then
        let keyword ← word "else"
        pure (equals ++ value ++ keyword ++ (← block grammar))
      else pure (equals ++ value)
    else pure []
  return keyword ++ pattern.tokens ++ annotation ++ value ++ (← mark .semicolon)

/-- Whether an item starts here, after its attributes. -/
def atItem (tokens : Tokens) : Bool :=
  let second := tokens.afterOne
  let third := tokens.afterTwo
  let functionHead := fun (tokens : Tokens) =>
    tokens.atWord "unsafe" || tokens.atWord "extern" || tokens.atWord "fn"
  tokens.atWord "pub" || (tokens.atWord "crate" && !second.atMark .pathSeparator) ||
    tokens.atWord "extern" || tokens.atWord "use" ||
    (tokens.atWord "static" && (second.atWord "mut" || (second.atName &&
      !(second.atWord "async" && (third.atWord "move" || third.atMark .bar))))) ||
    (tokens.atWord "const" && !(second.atGroup .brace || second.atWord "static" ||
      (second.atWord "async" && !functionHead third) || second.atWord "move" ||
      second.atMark .bar)) ||
    (tokens.atWord "unsafe" && !second.atGroup .brace) ||
    (tokens.atWord "async" && functionHead second) || tokens.atWord "fn" || tokens.atWord "mod" ||
    tokens.atWord "type" || tokens.atWord "struct" || tokens.atWord "enum" ||
    (tokens.atWord "union" && second.atName) || (tokens.atWord "auto" && second.atWord "trait") ||
    tokens.atWord "trait" ||
    (tokens.atWord "default" && (second.atWord "unsafe" || second.atWord "impl")) ||
    tokens.atWord "impl" || tokens.atWord "macro"

/-- How a statement starts that begins with a plain path and a bang. -/
inductive MacroStart
  | none | statement | item

/-- How the statement here starts, if it starts with a macro call. -/
def macroStart (tokens : Tokens) : MacroStart :=
  match plainPath.run tokens with
  | some (_, rest) =>
    let second := rest.afterOne
    let third := rest.afterTwo
    if !rest.atMark .bang then .none
    else if second.atName || second.atWord "try" then .item
    else if second.atGroup .brace && !((third.atMark .dot && !third.atMark .dots) ||
        third.atMark .question) then .statement
    else .none
  | _ => .none

/-- A statement, with whether a further statement needs a semicolon before it. -/
def statement (grammar : Grammar) : Reader (Tokens × Bool) := do
  let attributes ← outerAttributes grammar
  let written := attributeTokens attributes
  let tokens ← get
  match macroStart tokens with
  | .statement =>
    let path ← plainPath
    let (body, _) ← macroBody
    return (written ++ path.tokens ++ body ++ (← optionalMark .semicolon), false)
  | start =>
    if tokens.atWord "let" then return (written ++ (← letStatement grammar), false)
    else if atItem tokens || start matches .item then
      return ((← grammar.item attributes).tokens, false)
    else
      let expression ← grammar.leading
      let semicolon ← optionalMark .semicolon
      let complete := !semicolon.isEmpty || expression.form = .blockLike ||
        expression.form = .macroCall true
      return (written ++ expression.tokens ++ semicolon, !complete)

/-- The statements up to the end of a block. -/
def statementSequence (grammar : Grammar) : Reader Tokens := do
  let semicolons : Reader Tokens := do
    return (← «repeat» (Tokens.atMark .semicolon) (mark .semicolon)).flatten
  extend (fun statements => do
    let skipped ← semicolons
    if ← atEnd then
      if skipped.isEmpty then return none else return some (statements ++ skipped)
    let (tokens, incomplete) ← statement grammar
    require !(incomplete && !(← atEnd))
    return some (statements ++ skipped ++ tokens)) []

end Registrar.Source.Grammar
