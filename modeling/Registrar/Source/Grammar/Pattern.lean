import Registrar.Source.Grammar.Generics

/-!
# Patterns

A pattern that starts with a path may be a macro call, a record, a tuple or a range. A range that
lacks an end may not be an element of a slice.
-/

namespace Registrar.Source.Grammar

open Reader

/-- Whether a further alternative of a pattern follows. -/
def atAlternative (tokens : Tokens) : Bool :=
  tokens.atMark .bar && !tokens.atMark .bars && !tokens.atMark .barEquals

/-- A pattern with alternatives, which a bar may precede. -/
def alternatives (grammar : Grammar) : Reader PatternPhrase := do
  let bar ← optionalMark .bar
  let first ← grammar.pattern
  let others ← «repeat» atAlternative do
    let bar ← mark .bar
    return bar ++ (← grammar.pattern).tokens
  return ⟨bar ++ first.tokens ++ others.flatten, bar.isEmpty && others.isEmpty && first.openRange⟩

/-- The normal form of a pattern with alternatives. -/
def alternativeTokens (grammar : Grammar) : Reader Tokens := do
  return (← alternatives grammar).tokens

/-- Reads the number of a field without a name. -/
def placeNumber : Reader Tokens := do
  match ← get with
  | .literal spelling :: rest =>
    match Literal.plainInteger? spelling.toList with
    | some value =>
      require (value < 4294967296)
      set (rest : Tokens)
      return [.literal (String.ofList (Nat.toDigits 10 value))]
    | none => failure
  | _ => failure

/-- The operator of a range, with whether the end belongs to the range. Where it is allowed, the old
operator of three dots is read like the closed one. -/
def rangeMark (oldAllowed : Bool) : Reader (Tokens × Bool) := do
  let tokens ← get
  if tokens.atMark .dotsEquals then return (← mark .dotsEquals, true)
  else if tokens.atMark .ellipsis then
    require oldAllowed
    let _ ← mark .ellipsis
    return (markTokens Mark.dotsEquals.characters, true)
  else return (← mark .dots, false)

/-- Reads the upper bound of a range, if there is one. -/
def rangeBound (grammar : Grammar) : Reader Tokens := do
  let tokens ← get
  if tokens.isEmpty || tokens.atMark .bar || tokens.atMark .equals ||
      (tokens.atMark .colon && !tokens.atMark .pathSeparator) || tokens.atMark .comma ||
      tokens.atMark .semicolon || tokens.atWord "if" then return []
  else if tokens.atLiteral then literal
  else if atPathWord tokens || tokens.atMark .pathSeparator || tokens.atMark .less then
    return (← qualifiedPath grammar true).tokens
  else return (← word "const") ++ (← attributedBlock grammar)

/-- Reads a range after its lower bound. -/
def rangeAfter (grammar : Grammar) (start : Tokens) : Reader PatternPhrase := do
  let (operator, closed) ← rangeMark true
  let bound ← rangeBound grammar
  require !(closed && bound.isEmpty)
  return ⟨start ++ operator ++ bound, start.isEmpty || bound.isEmpty⟩

/-- A range pattern without a start, or the rest of a tuple or slice. -/
def rangeWithoutStart (grammar : Grammar) : Reader PatternPhrase := do
  let (operator, closed) ← rangeMark false
  let bound ← rangeBound grammar
  require !(closed && bound.isEmpty)
  return ⟨operator ++ bound, !bound.isEmpty⟩

/-- Reads the pattern of a field with a name. -/
def fieldPattern (grammar : Grammar) : Reader Tokens := do
  let boxed ← optionalWord "box"
  let byReference ← optionalWord "ref"
  let mutability ← optionalWord "mut"
  let modifiers := boxed ++ byReference ++ mutability
  let tokens ← get
  if tokens.atName then
    let member : Tokens := [.word (← name)]
    if modifiers.isEmpty && (← get).atMark .colon then
      let colon ← mark .colon
      return member ++ colon ++ (← alternativeTokens grammar)
    else return modifiers ++ member
  else
    require modifiers.isEmpty
    let member ← placeNumber
    let colon ← mark .colon
    return member ++ colon ++ (← alternativeTokens grammar)

/-- Reads the patterns of fields with names, and the dots at their end. -/
def fieldPatterns (grammar : Grammar) : Reader Tokens := do
  let (fields, _) ← extend (fun (fields, finished) => do
    if finished || (← atEnd) then return none
    let attributes ← outerTokens grammar
    if (← get).atMark .dots then
      return some (fields ++ attributes ++ (← mark .dots), true)
    let field ← fieldPattern grammar
    if ← atEnd then return some (fields ++ attributes ++ field, true)
    return some (fields ++ attributes ++ field ++ (← mark .comma), false)) (([] : Tokens), false)
  return fields

/-- Reads a pattern that begins with a path. -/
def pathPattern (grammar : Grammar) : Reader PatternPhrase := do
  let path ← qualifiedPath grammar true
  let tokens ← get
  let isPlain := match path with
    | .plain path => path.isPlain
    | .qualified _ => false
  if isPlain && tokens.atMark .bang && !tokens.atMark .notEquals then
    return ⟨path.tokens ++ (← macroBody).1, false⟩
  else if tokens.atGroup .brace then
    return ⟨path.tokens ++ (← enclosed .brace (fieldPatterns grammar)), false⟩
  else if tokens.atGroup .parenthesis then
    let elements ← enclosed .parenthesis (commaSeparated (alternativeTokens grammar))
    return ⟨path.tokens ++ elements, false⟩
  else if tokens.atMark .dots then rangeAfter grammar path.tokens
  else return ⟨path.tokens, false⟩

/-- Reads a pattern that binds a name. -/
def namePattern (grammar : Grammar) : Reader Tokens := do
  let byReference ← optionalWord "ref"
  let mutability ← optionalWord "mut"
  let bound ← if (← get).atWord "self" then anyWord else name
  let subpattern ←
    if (← get).atMark .atSign then
      let operator ← mark .atSign
      pure (operator ++ (← grammar.pattern).tokens)
    else pure []
  return byReference ++ mutability ++ [.word bound] ++ subpattern

/-- Reads a pattern that is no alternative. -/
def patternPhrase (grammar : Grammar) : Reader PatternPhrase := do
  let tokens ← get
  let second := tokens.afterOne
  if (tokens.atName && (second.atMark .pathSeparator || second.atMark .bang ||
        second.atGroup .brace || second.atGroup .parenthesis || second.atMark .dots)) ||
      (tokens.atWord "self" && second.atMark .pathSeparator) ||
      tokens.atMark .pathSeparator || tokens.atMark .less || tokens.atWord "Self" ||
      tokens.atWord "super" || tokens.atWord "crate" then
    pathPattern grammar
  else if tokens.atWord "_" then return ⟨← word "_", false⟩
  else if tokens.atWord "box" then
    let keyword ← word "box"
    return ⟨keyword ++ (← grammar.pattern).tokens, false⟩
  else if tokens.atMark .minus || tokens.atLiteral || tokens.atWord "const" then
    let start ← rangeBound grammar
    require !start.isEmpty
    if (← get).atMark .dots then rangeAfter grammar start else return ⟨start, false⟩
  else if tokens.atWord "ref" || tokens.atWord "mut" || tokens.atWord "self" || tokens.atName then
    return ⟨← namePattern grammar, false⟩
  else if tokens.atMark .ampersand then
    let ampersand ← mark .ampersand
    let mutability ← optionalWord "mut"
    return ⟨ampersand ++ mutability ++ (← grammar.pattern).tokens, false⟩
  else if tokens.atGroup .parenthesis then
    return ⟨← enclosed .parenthesis (commaSeparated (alternativeTokens grammar)), false⟩
  else if tokens.atGroup .bracket then
    let elements ← enclosed .bracket (commaSeparated do
      let element ← alternatives grammar
      require !element.openRange
      return element.tokens)
    return ⟨elements, false⟩
  else rangeWithoutStart grammar

end Registrar.Source.Grammar
