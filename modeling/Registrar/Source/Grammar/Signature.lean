import Registrar.Source.Grammar.Statement

/-!
# Visibility and functions

The head of a function names its receiver, the types of its other parameters and its result.
-/

namespace Registrar.Source.Grammar

open Reader

/-- The visibility of an item, empty where it is private. -/
def visibility : Reader Tokens := do
  if !(← get).atWord "pub" then return []
  let keyword ← word "pub"
  match ← get with
  | .group .parenthesis content :: rest =>
    match content with
    | [.word scope] =>
      if scope == "crate" || scope == "self" || scope == "super" then
        set (rest : Tokens)
        return keyword ++ [.group .parenthesis content]
      else
        require (scope ≠ "in")
        return keyword
    | .word "in" :: path =>
      match whole plainPath path with
      | some path =>
        set (rest : Tokens)
        return keyword ++ [.group .parenthesis (.word "in" :: path.tokens)]
      | none => failure
    | _ => return keyword
  | _ => return keyword

/-- Whether the head of a function starts here. The word that marks a foreign function as safe is
only read where it is allowed. -/
def atFunction (safeAllowed : Bool) (tokens : Tokens) : Bool :=
  let head : Reader Unit := do
    let _ ← optionalWord "const"
    let _ ← optionalWord "async"
    if safeAllowed && (← get).atWord "safe" then
      let _ ← word "safe"
    else
      let _ ← optionalWord "unsafe"
    let _ ← optionalConvention
    let _ ← word "fn"
  (head.run tokens).isSome

/-- Reads the receiver of a method. -/
def receiver (grammar : Grammar) : Reader Tokens := do
  let reference ←
    if (← get).atMark .ampersand then
      let ampersand ← mark .ampersand
      pure (ampersand ++ (← optionalLifetime))
    else pure []
  let mutability ← optionalWord "mut"
  let keyword ← word "self"
  let annotation ←
    if reference.isEmpty && (← get).atMark .colon then
      let colon ← mark .colon
      pure (colon ++ (← grammar.typeTokens true))
    else pure []
  return reference ++ mutability ++ keyword ++ annotation

/-- A parameter of a function. -/
inductive Parameter
  | receiver (tokens : Tokens)
  | typed (tokens type : Tokens)
  | variadic (tokens : Tokens)

/-- A parameter of a function without its attributes. -/
def parameter (grammar : Grammar) : Reader Parameter := do
  let tokens ← get
  if tokens.atMark .ellipsis then return .variadic (← mark .ellipsis)
  match (receiver grammar).run tokens with
  | some (read, rest) =>
    set rest
    return .receiver read
  | none =>
    if tokens.atName && tokens.afterOne.atMark .less then
      let type ← grammar.typeTokens true
      return .typed ([.word "_", .mark ':' false] ++ type) type
    else
      let pattern ← grammar.pattern
      let colon ← mark .colon
      if (← get).atMark .ellipsis then
        return .variadic (pattern.tokens ++ colon ++ (← mark .ellipsis))
      else
        let type ← grammar.typeTokens true
        return .typed (pattern.tokens ++ colon ++ type) type

/-- The parameters of a function: whether it has a receiver, the types of the others, and the
normal form. -/
structure Parameters where
  hasReceiver : Bool
  types : List Tokens
  tokens : Tokens

/-- The parameters of a function. A receiver comes first, and an open end comes last. -/
def parameters (grammar : Grammar) : Reader Parameters := do
  let (read, _) ← extend (fun ((read : Parameters), finished) => do
    if finished || (← atEnd) then return none
    let attributes ← outerTokens grammar
    let continued := fun (hasReceiver : Bool) (types : List Tokens) (tokens : Tokens) => do
      let tokens := read.tokens ++ attributes ++ tokens
      if ← atEnd then return some ((⟨hasReceiver, types, tokens⟩ : Parameters), true)
      return some (⟨hasReceiver, types, tokens ++ (← mark .comma)⟩, false)
    match ← parameter grammar with
    | .receiver tokens =>
      require (!read.hasReceiver && read.types.isEmpty)
      continued true read.types tokens
    | .typed tokens type => continued read.hasReceiver (read.types ++ [type]) tokens
    | .variadic tokens =>
      let tokens := read.tokens ++ attributes ++ tokens ++ (← optionalMark .comma)
      return some (⟨read.hasReceiver, read.types, tokens⟩, true)) (⟨false, [], []⟩, false)
  return read

/-- The head of a function. -/
def signature (grammar : Grammar) (safeAllowed : Bool) : Reader Signature := do
  let constness ← optionalWord "const"
  let asyncness ← optionalWord "async"
  let safety ←
    if safeAllowed && (← get).atWord "safe" then word "safe" else optionalWord "unsafe"
  let convention ← optionalConvention
  let keyword ← word "fn"
  let name ← name
  let generics ← generics grammar
  let parameters ← inside .parenthesis (parameters grammar)
  let output ← optionalResult grammar true
  let conditions ← conditions grammar
  return {
    name
    hasReceiver := parameters.hasReceiver
    inputs := parameters.types
    output
    tokens := constness ++ asyncness ++ safety ++ convention ++ keyword ++ [.word name] ++
      generics ++ [.group .parenthesis parameters.tokens] ++ resultTokens output ++ conditions }

end Registrar.Source.Grammar
