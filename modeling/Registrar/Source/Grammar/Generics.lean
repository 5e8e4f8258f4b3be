import Registrar.Source.Grammar.Type

/-!
# Parameter lists and their conditions

The normal form of a parameter list has lifetimes first and is empty for a list without
parameters. The normal form of conditions is empty where there are none.
-/

namespace Registrar.Source.Grammar

open Reader

/-- A parameter list in angle brackets, if there is one. -/
def generics (grammar : Grammar) : Reader Tokens := do
  if !(← get).atMark .less then return []
  let less ← mark .less
  let parameters ← separated (Tokens.atMark .greater) (Tokens.atMark .greater) .comma do
    let attributes ← outerTokens grammar
    let tokens ← get
    if tokens.atLifetime then return (true, attributes ++ (← lifetimeParameter))
    else if tokens.atName then return (false, attributes ++ (← typeParameter grammar))
    else if tokens.atWord "const" then return (false, attributes ++ (← constParameter grammar))
    else return (false, attributes ++ (← word "_"))
  let greater ← mark .greater
  if parameters.isEmpty then return []
  let entries := parameters.map fun ((isLifetime, tokens), separator) =>
    (isLifetime, tokens, separator)
  return less ++ lifetimesFirst entries ++ greater

/-- Whether a parameter list rather than a qualified path starts here. -/
def atGenerics (tokens : Tokens) : Bool :=
  let second := tokens.afterOne
  let third := tokens.afterTwo
  tokens.atMark .less && (second.atMark .greater || second.atMark .hash ||
    ((second.atName || second.atLifetime) && (third.atMark .greater || third.atMark .comma ||
      (third.atMark .colon && !third.atMark .pathSeparator) || third.atMark .equals)) ||
    second.atWord "const")

/-- Whether no further condition follows. -/
def atConditionsEnd (tokens : Tokens) : Bool :=
  tokens.isEmpty || tokens.atGroup .brace || tokens.atMark .comma || tokens.atMark .semicolon ||
    (tokens.atMark .colon && !tokens.atMark .pathSeparator) || tokens.atMark .equals

/-- Reads a condition on a lifetime or on a type. -/
def condition (grammar : Grammar) : Reader Tokens := do
  let tokens ← get
  if tokens.atLifetime && tokens.afterOne.atMark .colon then
    let subject ← lifetime
    let colon ← mark .colon
    return subject ++ colon ++ (← lifetimeSum fun tokens =>
      atConditionsEnd tokens || tokens.atMark .colon)
  else
    let binder ← optionalBinder grammar
    let subject ← grammar.typeTokens true
    let colon ← mark .colon
    return binder ++ subject ++ colon ++ (← boundSum grammar atConditionsEnd)

/-- The conditions on the parameters of an item, if the word for them is there; `none` where it is
not. -/
def conditions? (grammar : Grammar) : Reader (Option Tokens) := do
  if !(← get).atWord "where" then return none
  let keyword ← word "where"
  require !(atGenerics (← get))
  let conditions ← separated atConditionsEnd (fun tokens => !tokens.atMark .comma) .comma
    (condition grammar)
  return some (if conditions.isEmpty then [] else keyword ++ joined conditions)

/-- The normal form of the conditions on the parameters of an item. -/
def conditions (grammar : Grammar) : Reader Tokens := do
  return (← conditions? grammar).getD []

end Registrar.Source.Grammar
