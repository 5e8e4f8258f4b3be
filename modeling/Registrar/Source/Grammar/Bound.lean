import Registrar.Source.Grammar.Path

/-!
# Bounds

A bound is a lifetime, a list of captured parameters or a trait, perhaps in parentheses and with a
binder, a condition or a question mark before it. Only the path of a trait takes arguments in
parentheses.
-/

namespace Registrar.Source.Grammar

open Reader

/-- A sum of lifetimes, up to where `ends` holds or no plus sign follows. -/
def lifetimeSum (ends : Tokens → Bool) : Reader Tokens := do
  return joined (← separated ends (fun tokens => !tokens.atMark .plus) .plus lifetime)

/-- Reads a lifetime that is a parameter, with its bounds. -/
def lifetimeParameter : Reader Tokens := do
  let parameter ← lifetime
  let colon ← optionalMark .colon
  let bounds ←
    if colon.isEmpty then pure []
    else lifetimeSum fun tokens =>
      tokens.isEmpty || tokens.atMark .comma || tokens.atMark .greater
  return parameter ++ (if bounds.isEmpty then [] else colon ++ bounds)

/-- The default of a parameter after an equals sign, if there is one. -/
def optionalDefault (value : Reader Tokens) : Reader Tokens := do
  let equals ← optionalMark .equals
  if equals.isEmpty then return [] else return equals ++ (← value)

/-- Reads a type that is a parameter, with its bounds and its default. -/
def typeParameter (grammar : Grammar) : Reader Tokens := do
  let parameter : Tokens := [.word (← name)]
  let colon ← optionalMark .colon
  let bounds ←
    if colon.isEmpty then pure []
    else boundSum grammar fun tokens => tokens.isEmpty || tokens.atMark .comma ||
      tokens.atMark .greater || tokens.atMark .equals
  let default ← optionalDefault (grammar.typeTokens true)
  return parameter ++ (if bounds.isEmpty then [] else colon ++ bounds) ++ default

/-- Reads a constant that is a parameter, with its type and its default. -/
def constParameter (grammar : Grammar) : Reader Tokens := do
  let const ← word "const"
  let parameter : Tokens := [.word (← name)]
  let colon ← mark .colon
  let type ← grammar.typeTokens true
  let default ← optionalDefault (constArgument grammar)
  return const ++ parameter ++ colon ++ type ++ default

/-- Reads a generic parameter, and tells whether it is a lifetime. -/
def genericParameter (grammar : Grammar) : Reader (Bool × Tokens) := do
  let attributes ← outerTokens grammar
  let tokens ← get
  if tokens.atLifetime then return (true, attributes ++ (← lifetimeParameter))
  else if tokens.atName then return (false, attributes ++ (← typeParameter grammar))
  else return (false, attributes ++ (← constParameter grammar))

/-- The binder of a bound or a function type. -/
def binder (grammar : Grammar) : Reader Tokens := do
  let keyword ← word "for"
  let less ← mark .less
  let parameters ← separated (Tokens.atMark .greater) (Tokens.atMark .greater) .comma do
    return (← genericParameter grammar).2
  let greater ← mark .greater
  return keyword ++ less ++ joined parameters ++ greater

/-- Reads the lifetimes that `for` binds, if it comes next. -/
def optionalBinder (grammar : Grammar) : Reader Tokens := do
  if (← get).atWord "for" then binder grammar else return []

/-- The result of a function after an arrow, if there is one, without the arrow. -/
def optionalResult (grammar : Grammar) (plusAllowed : Bool) : Reader (Option Tokens) := do
  if (← get).atMark .thinArrow then
    let _ ← mark .thinArrow
    return some (← grammar.typeTokens plusAllowed)
  else return none

/-- The normal form of a result with its arrow. -/
def resultTokens : Option Tokens → Tokens
  | none => []
  | some result => markTokens Mark.thinArrow.characters ++ result

/-- The arguments and the result of a trait of functions. -/
def parenthesizedArguments (grammar : Grammar) : Reader Tokens := do
  let arguments ← enclosed .parenthesis (commaSeparated (grammar.typeTokens true))
  return arguments ++ resultTokens (← optionalResult grammar false)

/-- Reads a bound that is a trait, with its modifiers. -/
def traitBound (grammar : Grammar) (conditionAllowed : Bool) : Reader BoundPhrase := do
  let outerBinder ← optionalBinder grammar
  let tokens ← get
  let condition ←
    if tokens.atGroup .bracket then enclosed .bracket (word "const") else optionalWord "const"
  require (condition.isEmpty || conditionAllowed)
  let relaxation ← optionalMark .question
  let innerBinder ←
    if outerBinder.isEmpty && !relaxation.isEmpty then optionalBinder grammar else pure []
  let path ← path grammar false
  let lacksArguments := match path.segments.getLast? with
    | some segment => segment.arguments.isEmpty
    | none => false
  let tokens ← get
  let arguments ←
    if lacksArguments && (tokens.atGroup .parenthesis ||
        (tokens.atMark .pathSeparator && tokens.afterTwo.atGroup .parenthesis)) then
      let _ ← optionalMark .pathSeparator
      parenthesizedArguments grammar
    else pure []
  require (relaxation.isEmpty || (outerBinder.isEmpty && innerBinder.isEmpty))
  return ⟨if condition.isEmpty then .ofTrait else .conditional,
    outerBinder ++ condition ++ relaxation ++ path.tokens ++ arguments⟩

/-- The parameters that an opaque type captures. -/
def capture : Reader Tokens := do
  let keyword ← word "use"
  let less ← mark .less
  let parameters ← separated (Tokens.atMark .greater) (Tokens.atMark .greater) .comma do
    let tokens ← get
    if tokens.atLifetime then lifetime
    else
      require (tokens.atName || tokens.atWord "Self")
      return [.word (← anyWord)]
  let greater ← mark .greater
  return keyword ++ less ++ joined parameters ++ greater

/-- Reads a bound of any kind. -/
def boundPhrase (grammar : Grammar) (captureAllowed conditionAllowed : Bool) :
    Reader BoundPhrase := do
  let tokens ← get
  if tokens.atLifetime then return ⟨.lifetime, ← lifetime⟩
  else if tokens.atWord "use" then
    let captured ← capture
    require captureAllowed
    return ⟨.capture, captured⟩
  else if tokens.atGroup .parenthesis then
    let bound ← inside .parenthesis (traitBound grammar conditionAllowed)
    return ⟨bound.kind, [.group .parenthesis bound.tokens]⟩
  else traitBound grammar conditionAllowed

/-- Whether a further bound may start here. -/
def atBound (tokens : Tokens) : Bool :=
  tokens.atAnyWord || tokens.atMark .pathSeparator || tokens.atMark .question ||
    tokens.atLifetime || tokens.atGroup .parenthesis

/-- One bound or more, of which one at least names a trait. -/
def bounds (grammar : Grammar) (plusAllowed captureAllowed conditionAllowed : Bool) :
    Reader Tokens := do
  let ends := fun tokens => !(atBound tokens || (conditionAllowed && tokens.atGroup .bracket))
  let first ← boundPhrase grammar captureAllowed conditionAllowed
  let others ← «repeat» (fun tokens => plusAllowed && tokens.atMark .plus) do
    let plus ← mark .plus
    let tokens ← get
    if ends tokens then
      require !(tokens.atMark .plus)
      return (plus, none)
    return (plus, some (← boundPhrase grammar captureAllowed conditionAllowed))
  let phrases := first :: others.filterMap Prod.snd
  require (phrases.any fun bound => bound.kind = .ofTrait || bound.kind = .conditional)
  return first.tokens ++ others.flatMap fun (plus, bound) =>
    plus ++ (bound.map BoundPhrase.tokens).getD []

end Registrar.Source.Grammar
