import Registrar.Source.Grammar.Attribute

/-!
# Paths and generic arguments

In an expression a path needs a separator before its generic arguments, in a type it does not.
Lifetimes come before all other generic arguments in normal form.
-/

namespace Registrar.Source.Grammar

open Reader

/-- Puts lifetimes before everything else, with a comma between the two where it was missing. Each
entry says whether it is a lifetime and holds its trees and the separator after it. -/
def lifetimesFirst (entries : List (Bool × Tokens × Tokens)) : Tokens :=
  let (lifetimes, others) := entries.partition Prod.fst
  let needsComma := !others.isEmpty && match lifetimes.getLast? with
    | some (_, _, separator) => separator.isEmpty
    | none => false
  joined (lifetimes.map Prod.snd) ++
    (if needsComma then markTokens Mark.comma.characters else []) ++ joined (others.map Prod.snd)

/-- A generic argument that is a value: a literal, a name or a block. -/
def constArgument (grammar : Grammar) : Reader Tokens := do
  let tokens ← get
  if tokens.atLiteral then literal
  else if tokens.atName then return [.word (← name)]
  else attributedBlock grammar

/-- A sum of bounds after a colon, up to where `ends` holds or no plus sign follows. -/
def boundSum (grammar : Grammar) (ends : Tokens → Bool) : Reader Tokens := do
  return joined (← separated ends (fun tokens => !tokens.atMark .plus) .plus do
    return (← grammar.bound false true).tokens)

/-- Reads a generic argument, and tells whether it is a lifetime. -/
def genericArgument (grammar : Grammar) : Reader (Bool × Tokens) := do
  let tokens ← get
  if tokens.atLifetime && !tokens.afterOne.atMark .plus then return (true, ← lifetime)
  else if tokens.atLiteral || tokens.atGroup .brace then return (false, ← constArgument grammar)
  else
    let argument ← grammar.typeExpr true
    let isName := match argument.form with
      | .path path => path.only?.isSome
      | _ => false
    let tokens ← get
    if isName && tokens.atMark .equals then
      let equals ← mark .equals
      let tokens ← get
      let value ←
        if tokens.atLiteral || tokens.atGroup .brace then constArgument grammar
        else grammar.typeTokens true
      return (false, argument.tokens ++ equals ++ value)
    else if isName && tokens.atMark .colon then
      let colon ← mark .colon
      let bounds ← boundSum grammar fun tokens => tokens.atMark .comma || tokens.atMark .greater
      return (false, argument.tokens ++ colon ++ bounds)
    else return (false, argument.tokens)

/-- Generic arguments in angle brackets, after the separator that may stand before them. -/
def angleArguments (grammar : Grammar) : Reader Tokens := do
  let less ← mark .less
  let arguments ← separated (Tokens.atMark .greater) (Tokens.atMark .greater) .comma
    (genericArgument grammar)
  let greater ← mark .greater
  let entries := arguments.map fun ((isLifetime, tokens), separator) =>
    (isLifetime, tokens, separator)
  return less ++ lifetimesFirst entries ++ greater

/-- Reads a segment of a path with its arguments. -/
def segment (grammar : Grammar) (inExpression : Bool) : Reader Segment := do
  let tokens ← get
  if tokens.atWord "super" || tokens.atWord "self" || tokens.atWord "crate" ||
      tokens.atWord "try" then
    return ⟨← anyWord, []⟩
  else
    let name ← if tokens.atWord "Self" then anyWord else name
    let tokens ← get
    let direct := !inExpression && tokens.atMark .less && !tokens.atMark .lessEquals &&
      !tokens.atMark .shiftLeftEquals
    if direct || (tokens.atMark .pathSeparator && tokens.afterTwo.atMark .less) then
      let separator ← optionalMark .pathSeparator
      return ⟨name, separator ++ (← angleArguments grammar)⟩
    else return ⟨name, []⟩

/-- A path without a qualified part. -/
def path (grammar : Grammar) (inExpression : Bool) : Reader Path := do
  let leading ← optionalMark .pathSeparator
  let first ← segment grammar inExpression
  let others ← «repeat»
    (fun tokens => tokens.atMark .pathSeparator && !tokens.afterTwo.atGroup .parenthesis) do
      let _ ← mark .pathSeparator
      segment grammar inExpression
  return ⟨leading, first :: others⟩

/-- A path that may start with a type in angle brackets. -/
def qualifiedPath (grammar : Grammar) (inExpression : Bool) : Reader QualifiedPath := do
  if (← get).atMark .less then
    let less ← mark .less
    let subject ← grammar.typeTokens true
    let role ←
      if (← get).atWord "as" then
        let as ← word "as"
        pure (as ++ (← path grammar false).tokens)
      else pure []
    let greater ← mark .greater
    let separator ← mark .pathSeparator
    let first ← segment grammar inExpression
    let others ← «repeat» (Tokens.atMark .pathSeparator) do
      let _ ← mark .pathSeparator
      segment grammar inExpression
    return .qualified (less ++ subject ++ role ++ greater ++ separator ++
      Path.tokens ⟨[], first :: others⟩)
  else return .plain (← path grammar inExpression)

/-- The bang and the group of a macro call, with whether the group is in braces. -/
def macroBody : Reader (Tokens × Bool) := do
  let bang ← mark .bang
  let (delimiter, content) ← anyGroup
  return (bang ++ [.group delimiter content], delimiter = .brace)

end Registrar.Source.Grammar
