import Registrar.Source.Grammar.Bound

/-!
# Types

A type in parentheses that is followed by a plus sign is the first bound of a sum, if it is a path
or a single bound.
-/

namespace Registrar.Source.Grammar

open Reader

/-- The bounds after the first one of a sum, each with its plus sign; the sum may end with one
where `mayEndOpen` holds. -/
def furtherBounds (grammar : Grammar) (mayEndOpen : Bool) : Reader (List Tokens) :=
  «repeat» (Tokens.atMark .plus) do
    let plus ← mark .plus
    let tokens ← get
    if mayEndOpen && !atBound tokens then
      require !(tokens.atMark .plus)
      return plus
    return plus ++ (← boundPhrase grammar false false).tokens

/-- The rest of a sum of bounds without a leading word, after its first one. -/
def boundsAfter (first : Tokens) (sole : Tokens) (others : List Tokens) : TypePhrase :=
  ⟨first ++ others.flatten, .bounds (if others.isEmpty then some sole else none)⟩

/-- What parentheses in a type hold. -/
inductive ParenthesizedType
  | tuple (content : Tokens)
  | relaxed (bound : Tokens)
  | single (content : TypePhrase)

/-- Reads what parentheses in a type hold. -/
def parenthesizedContent (grammar : Grammar) : Reader ParenthesizedType := do
  let tokens ← get
  if tokens.isEmpty then return .tuple []
  else if tokens.atLifetime then
    return .single ⟨← bounds grammar true false false, .other⟩
  else if tokens.atMark .question then
    return .relaxed (← traitBound grammar false).tokens
  else
    let first ← grammar.typeExpr true
    if (← get).atMark .comma then
      let comma ← mark .comma
      return .tuple (first.tokens ++ comma ++ (← commaSeparated (grammar.typeTokens true)))
    else return .single first

/-- Reads a type in parentheses. -/
def parenthesizedType (grammar : Grammar) (plusAllowed : Bool) : Reader TypePhrase := do
  match ← inside .parenthesis (parenthesizedContent grammar) with
  | .tuple content => return ⟨[.group .parenthesis content], .other⟩
  | .relaxed bound =>
    let others ← furtherBounds grammar false
    return boundsAfter [.group .parenthesis bound] bound others
  | .single content =>
    let sole := match content.form with
      | .path path => some path.tokens
      | .bounds sole => sole
      | .other => none
    match sole with
    | some sole =>
      if plusAllowed && (← get).atMark .plus then
        let others ← furtherBounds grammar false
        return boundsAfter [.group .parenthesis sole] sole others
      else return ⟨[.group .parenthesis content.tokens], .other⟩
    | none => return ⟨[.group .parenthesis content.tokens], .other⟩

/-- The open end of a parameter list, with the name and colon that may stand before it. -/
def bareVariadic : Reader Tokens := do
  let tokens ← get
  let label ←
    if tokens.atName || tokens.atWord "_" then
      let name ← anyWord
      pure (.word name :: (← mark .colon))
    else pure []
  let dots ← mark .ellipsis
  return label ++ dots ++ (← optionalMark .comma)

/-- A parameter of a function type; the first one may be a receiver. -/
def bareParameter (grammar : Grammar) (first : Bool) : Reader Tokens := do
  let attributes ← outerTokens grammar
  let tokens ← get
  let mutable ←
    if first && tokens.atWord "mut" && tokens.afterOne.atWord "self" then word "mut" else pure []
  let tokens ← get
  let named := (tokens.atName || tokens.atWord "_" || (first && tokens.atWord "self")) &&
    tokens.afterOne.atMark .colon && !tokens.afterOne.atMark .pathSeparator
  let receives := named && tokens.atWord "self"
  let label ←
    if named then
      let name ← anyWord
      pure (.word name :: (← mark .colon))
    else pure []
  if !mutable.isEmpty && !named then return attributes ++ mutable ++ (← word "self")
  else
    let tokens ← get
    if first && !receives && tokens.atWord "mut" && tokens.afterOne.atWord "self" then
      let mutable ← word "mut"
      return attributes ++ label ++ mutable ++ (← word "self")
    else return attributes ++ mutable ++ label ++ (← grammar.typeTokens true)

/-- Reads the parameters of the type of a function. -/
def bareParameters (grammar : Grammar) : Reader Tokens := do
  let (parameters, _, _) ← extend (fun (parameters, first, finished) => do
    if finished || (← atEnd) then return none
    let attributes ← outerTokens grammar
    let tokens ← get
    if tokens.atMark .ellipsis || ((tokens.atName || tokens.atWord "_") &&
        tokens.afterOne.atMark .colon && tokens.afterTwo.atMark .ellipsis) then
      return some (parameters ++ attributes ++ (← bareVariadic), false, true)
    let parameter ← bareParameter grammar first
    if ← atEnd then return some (parameters ++ attributes ++ parameter, false, true)
    return some (parameters ++ attributes ++ parameter ++ (← mark .comma), false, false))
    (([] : Tokens), true, false)
  return parameters

/-- The name of a calling convention, if one is given. -/
def optionalConvention : Reader Tokens := do
  if (← get).atWord "extern" then
    let keyword ← word "extern"
    if (← get).atString then return keyword ++ (← literal) else return keyword
  else return []

/-- Reads the type of a function. -/
def bareFunction (grammar : Grammar) : Reader Tokens := do
  let unsafety ← optionalWord "unsafe"
  let convention ← optionalConvention
  let keyword ← word "fn"
  let parameters ← enclosed .parenthesis (bareParameters grammar)
  let result ← optionalResult grammar false
  return unsafety ++ convention ++ keyword ++ parameters ++ resultTokens result

/-- Whether a path comes next. -/
def atPath (tokens : Tokens) : Bool :=
  atPathWord tokens || tokens.atMark .pathSeparator || tokens.atMark .less

/-- A type that starts with a path, after the binder that may stand before it. -/
def pathType (grammar : Grammar) (plusAllowed : Bool) (binder : Tokens) : Reader TypePhrase := do
  match ← qualifiedPath grammar false with
  | .qualified tokens => return ⟨tokens, .other⟩
  | .plain path =>
    let tokens ← get
    if tokens.atMark .bang && !tokens.atMark .notEquals && path.isPlain then
      return ⟨path.tokens ++ (← macroBody).1, .other⟩
    else if !binder.isEmpty || (plusAllowed && tokens.atMark .plus) then
      let first := binder ++ path.tokens
      let others ← if plusAllowed then furtherBounds grammar true else pure []
      return boundsAfter first first others
    else return ⟨path.tokens, .path path⟩

/-- A slice or an array. -/
def bracketedType (grammar : Grammar) : Reader Tokens :=
  enclosed .bracket do
    let element ← grammar.typeTokens true
    if (← get).atMark .semicolon then
      let semicolon ← mark .semicolon
      return element ++ semicolon ++ (← grammar.expressionTokens)
    else return element

/-- Reads the type of a raw pointer. -/
def pointerType (grammar : Grammar) : Reader Tokens := do
  let star ← mark .star
  let mutability ← if (← get).atWord "const" then word "const" else word "mut"
  return star ++ mutability ++ (← grammar.typeTokens false)

/-- Reads the type of a reference. -/
def referenceType (grammar : Grammar) : Reader Tokens := do
  let ampersand ← mark .ampersand
  let lifetime ← optionalLifetime
  let mutability ← optionalWord "mut"
  return ampersand ++ lifetime ++ mutability ++ (← grammar.typeTokens false)

/-- Reads a type. -/
def typePhrase (grammar : Grammar) (plusAllowed : Bool) : Reader TypePhrase := do
  let binder ← optionalBinder grammar
  let tokens ← get
  if !binder.isEmpty then
    require (atPathWord tokens || tokens.atWord "fn" || tokens.atWord "unsafe" ||
      tokens.atWord "extern")
  if tokens.atGroup .parenthesis then parenthesizedType grammar plusAllowed
  else if tokens.atWord "fn" || tokens.atWord "unsafe" || tokens.atWord "extern" then
    return ⟨binder ++ (← bareFunction grammar), .other⟩
  else if atPath tokens then pathType grammar plusAllowed binder
  else if tokens.atWord "dyn" then
    let keyword ← word "dyn"
    let star ← optionalMark .star
    return ⟨keyword ++ star ++ (← bounds grammar plusAllowed false false), .other⟩
  else if tokens.atGroup .bracket then return ⟨← bracketedType grammar, .other⟩
  else if tokens.atMark .star then return ⟨← pointerType grammar, .other⟩
  else if tokens.atMark .ampersand then return ⟨← referenceType grammar, .other⟩
  else if tokens.atMark .bang then return ⟨← mark .bang, .other⟩
  else if tokens.atWord "impl" then
    let keyword ← word "impl"
    return ⟨keyword ++ (← bounds grammar plusAllowed true true), .other⟩
  else if tokens.atWord "_" then return ⟨← word "_", .other⟩
  else
    require tokens.atLifetime
    return ⟨← bounds grammar true false false, .bounds none⟩

end Registrar.Source.Grammar
