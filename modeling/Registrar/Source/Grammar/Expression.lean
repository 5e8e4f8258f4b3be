import Registrar.Source.Grammar.Pattern

/-!
# Expressions

An expression is an operand with operators after it, read by precedence. An operand is an atom with
calls, fields, indices and question marks after it, and prefix operators before it. Where
`structAllowed` is not set, a brace after a path ends the expression, as in the head of a loop.
-/

namespace Registrar.Source.Grammar

open Reader

/-- The binary operators with their precedence, those of more characters first. -/
def binaryOperators : List (Mark × Precedence) :=
  [(.plusEquals, .assign), (.minusEquals, .assign), (.starEquals, .assign), (.slashEquals, .assign),
    (.percentEquals, .assign), (.caretEquals, .assign), (.ampersandEquals, .assign),
    (.barEquals, .assign), (.shiftLeftEquals, .assign), (.shiftRightEquals, .assign),
    (.ampersands, .conjunction), (.bars, .disjunction), (.shiftLeft, .shift), (.shiftRight, .shift),
    (.equalsEquals, .comparison), (.lessEquals, .comparison), (.notEquals, .comparison),
    (.greaterEquals, .comparison), (.plus, .sum), (.minus, .sum), (.star, .product),
    (.slash, .product), (.percent, .product), (.caret, .bitXor), (.ampersand, .bitAnd),
    (.bar, .bitOr), (.less, .comparison), (.greater, .comparison)]

/-- The operator between two operands that comes next, with its precedence. -/
def binaryOperator? (tokens : Tokens) : Option (Mark × Precedence) :=
  binaryOperators.find? fun (operator, _) => tokens.atMark operator

/-- Whether the mark of an assignment comes next. -/
def atAssignment (tokens : Tokens) : Bool :=
  tokens.atMark .equals && !tokens.atMark .fatArrow

/-- The precedence of the operator that starts here, the loosest where none does. -/
def nextPrecedence (tokens : Tokens) : Precedence :=
  match binaryOperator? tokens with
  | some (_, precedence) => precedence
  | none =>
    if atAssignment tokens then .assign
    else if tokens.atMark .dots then .range
    else if tokens.atWord "as" then .cast
    else .jump

/-- The right operand of an operator: an operand with all operators that bind tighter. An
assignment takes further assignments. -/
def rightOperand (grammar : Grammar) (structAllowed : Bool) (precedence : Precedence) :
    Reader Tokens := do
  let first ← grammar.operand structAllowed
  let operand ← extend (fun operand => do
    let before ← get
    let next := nextPrecedence before
    if precedence.rank < next.rank || (next = .assign && precedence = .assign) then
      let extended ← grammar.operators operand structAllowed next
      if (← get).length = before.length then return none else return some extended
    else return none) first
  return operand.tokens

/-- Whether a range has no upper bound. -/
def atRangeEnd (structAllowed : Bool) (tokens : Tokens) : Bool :=
  tokens.isEmpty || tokens.atMark .comma || tokens.atMark .semicolon ||
    (tokens.atMark .dot && !tokens.atMark .dots) || tokens.atMark .question ||
    tokens.atMark .fatArrow || (!structAllowed && tokens.atGroup .brace) ||
    tokens.atMark .equals || tokens.atMark .plus || tokens.atMark .slash ||
    tokens.atMark .percent || tokens.atMark .caret || tokens.atMark .greater ||
    tokens.atMark .lessEquals || tokens.atMark .notEquals || tokens.atMark .minusEquals ||
    tokens.atMark .starEquals || tokens.atMark .ampersandEquals || tokens.atMark .barEquals ||
    tokens.atMark .shiftLeftEquals || tokens.atWord "as"

/-- Reads the mark of a range and the bound after it, if there is one. -/
def rangeTail (grammar : Grammar) (structAllowed : Bool) : Reader Tokens := do
  let (operator, closed) ← rangeMark false
  if !closed && atRangeEnd structAllowed (← get) then return operator
  else return operator ++ (← rightOperand grammar structAllowed .range)

/-- Whether a call, field, index or question mark follows, which a cast may not have. -/
def atSuffix (tokens : Tokens) : Bool :=
  (tokens.atMark .dot && !tokens.atMark .dots) || tokens.atMark .question ||
    tokens.atGroup .bracket || tokens.atGroup .parenthesis

/-- One operator with its right operand, if one binds at least as tightly as `base`. -/
def operatorStep (grammar : Grammar) (structAllowed : Bool) (base : Precedence)
    (left : ExprPhrase) : Reader (Option ExprPhrase) := do
  if left.form = .range then return none
  let tokens ← get
  match binaryOperator? tokens with
  | some (operator, precedence) =>
    if precedence.rank < base.rank then return none
    require !(precedence = .comparison && left.form = .comparison)
    let operator ← mark operator
    let right ← rightOperand grammar structAllowed precedence
    return some ⟨left.tokens ++ operator ++ right,
      if precedence = .comparison then .comparison else .other⟩
  | none =>
    if base.rank ≤ Precedence.assign.rank && atAssignment tokens then
      let equals ← mark .equals
      let right ← rightOperand grammar structAllowed .assign
      return some ⟨left.tokens ++ equals ++ right, .other⟩
    else if base.rank ≤ Precedence.range.rank && tokens.atMark .dots then
      return some ⟨left.tokens ++ (← rangeTail grammar structAllowed), .range⟩
    else if base.rank ≤ Precedence.cast.rank && tokens.atWord "as" then
      let keyword ← word "as"
      let type ← grammar.typeTokens false
      require !(atSuffix (← get))
      return some ⟨left.tokens ++ keyword ++ type, .other⟩
    else return none

/-- The operators after an operand that bind at least as tightly as `base`. -/
def operatorChain (grammar : Grammar) (left : ExprPhrase) (structAllowed : Bool)
    (base : Precedence) : Reader ExprPhrase :=
  extend (operatorStep grammar structAllowed base) left

/-- The places that a number with points stands for where a field is expected, and whether a point
without a place follows them. -/
def fieldPlaces (spelling : String) : Option (List String × Bool) := do
  let characters := spelling.toList
  let open_ := characters.getLast? = some '.'
  let parts := (if open_ then characters.dropLast else characters).splitOn '.'
  let places ← parts.mapM fun part => do
    let place ← Literal.plainInteger? part
    if (part.head?.any Char.isDigit) && place < 4294967296 then
      some (String.ofList (Nat.toDigits 10 place))
    else none
  return (places, open_)

/-- Reads what follows a dot: a field, a call of a method or `await`. -/
def fieldAfter (grammar : Grammar) (receiver dot : Tokens) : Reader Tokens := do
  let tokens ← get
  if tokens.atWord "await" then return receiver ++ dot ++ (← word "await")
  else if tokens.atName then
    let member : Tokens := [.word (← name)]
    let arguments ←
      if (← get).atMark .pathSeparator then
        let separator ← mark .pathSeparator
        pure (separator ++ (← angleArguments grammar))
      else pure []
    if !arguments.isEmpty || (← get).atGroup .parenthesis then
      let inputs ← enclosed .parenthesis (commaSeparated grammar.expressionTokens)
      return receiver ++ dot ++ member ++ arguments ++ inputs
    else return receiver ++ dot ++ member
  else return receiver ++ dot ++ (← placeNumber)

/-- A call, field, index or question mark after an operand. -/
def suffixStep (grammar : Grammar) (operand : ExprPhrase) : Reader (Option ExprPhrase) := do
  let tokens ← get
  if tokens.atGroup .parenthesis then
    let inputs ← enclosed .parenthesis (commaSeparated grammar.expressionTokens)
    return some ⟨operand.tokens ++ inputs, .other⟩
  else if tokens.atMark .dot && !tokens.atMark .dots && operand.form ≠ .range then
    let dot ← mark .dot
    match ← get with
    | .literal spelling :: rest =>
      if Tokens.isNumber spelling && Literal.isFractional spelling.toList then
        match fieldPlaces spelling with
        | none => failure
        | some (places, open_) =>
          set (rest : Tokens)
          let selected := operand.tokens ++ places.flatMap fun place => dot ++ [.literal place]
          if open_ then return some ⟨← fieldAfter grammar selected dot, .other⟩
          else return some ⟨selected, .other⟩
      else return some ⟨← fieldAfter grammar operand.tokens dot, .other⟩
    | _ => return some ⟨← fieldAfter grammar operand.tokens dot, .other⟩
  else if tokens.atGroup .bracket then
    return some ⟨operand.tokens ++ (← enclosed .bracket grammar.expressionTokens), .other⟩
  else if tokens.atMark .question && operand.form ≠ .range then
    return some ⟨operand.tokens ++ (← mark .question), .other⟩
  else return none

/-- The calls, fields, indices and question marks after an operand. -/
def suffixes (grammar : Grammar) (operand : ExprPhrase) : Reader ExprPhrase :=
  extend (suffixStep grammar) operand

/-- Whether an expression may begin here. -/
def atExpression (tokens : Tokens) : Bool :=
  (tokens.atAnyWord && !tokens.atWord "as") || tokens.atAnyGroup || tokens.atLiteral ||
    (tokens.atMark .bang && !tokens.atMark .notEquals) ||
    (tokens.atMark .minus && !tokens.atMark .minusEquals && !tokens.atMark .thinArrow) ||
    (tokens.atMark .star && !tokens.atMark .starEquals) ||
    (tokens.atMark .bar && !tokens.atMark .barEquals) ||
    (tokens.atMark .ampersand && !tokens.atMark .ampersandEquals) || tokens.atMark .dots ||
    (tokens.atMark .less && !tokens.atMark .lessEquals && !tokens.atMark .shiftLeftEquals) ||
    tokens.atMark .pathSeparator || tokens.atLifetime || tokens.atMark .hash

/-- Reads a field of a struct expression. -/
def fieldValue (grammar : Grammar) : Reader Tokens := do
  let attributes ← outerTokens grammar
  let named := (← get).atName
  let member ← if named then pure [.word (← name)] else placeNumber
  if (← get).atMark .colon || !named then
    let colon ← mark .colon
    return attributes ++ member ++ colon ++ (← grammar.expressionTokens)
  else return attributes ++ member

/-- Reads the fields of a struct expression, and the base at their end. -/
def fieldValues (grammar : Grammar) : Reader Tokens := do
  let (fields, _) ← extend (fun (fields, finished) => do
    if finished || (← atEnd) then return none
    if (← get).atMark .dots then
      let dots ← mark .dots
      if ← atEnd then return some (fields ++ dots, true)
      return some (fields ++ dots ++ (← grammar.expressionTokens), true)
    let field ← fieldValue grammar
    if ← atEnd then return some (fields ++ field, true)
    return some (fields ++ field ++ (← mark .comma), false)) (([] : Tokens), false)
  return fields

/-- Reads what begins with a path: a macro call, a struct expression or the path itself. -/
def pathExpression (grammar : Grammar) (structAllowed : Bool) : Reader ExprPhrase := do
  let path ← qualifiedPath grammar true
  let tokens ← get
  let isPlain := match path with
    | .plain path => path.isPlain
    | .qualified _ => false
  if isPlain && tokens.atMark .bang && !tokens.atMark .notEquals then
    let (body, braced) ← macroBody
    return ⟨path.tokens ++ body, .macroCall braced⟩
  else if structAllowed && tokens.atGroup .brace then
    return ⟨path.tokens ++ (← enclosed .brace (fieldValues grammar)), .other⟩
  else return ⟨path.tokens, .other⟩

/-- An array, which lists its elements or repeats one. -/
def arrayExpression (grammar : Grammar) : Reader Tokens :=
  enclosed .bracket do
    if ← atEnd then return []
    let first ← grammar.expressionTokens
    let tokens ← get
    if tokens.atMark .semicolon then
      let semicolon ← mark .semicolon
      return first ++ semicolon ++ (← grammar.expressionTokens)
    else if tokens.isEmpty then return first
    else
      let comma ← mark .comma
      return first ++ comma ++ (← commaSeparated grammar.expressionTokens)

/-- The head of a loop or condition, which a brace ends. -/
def headExpression (grammar : Grammar) : Reader Tokens := do
  return (← grammar.expression false).tokens

/-- A condition with its branches. -/
def ifExpression (grammar : Grammar) : Reader Tokens := do
  let branch : Reader Tokens := do
    let keyword ← word "if"
    let head ← headExpression grammar
    return keyword ++ head ++ (← block grammar)
  let first ← branch
  let (branches, _) ← extend (fun (branches, finished) => do
    if finished || !(← get).atWord "else" then return none
    let keyword ← word "else"
    if (← get).atWord "if" then return some (branches ++ keyword ++ (← branch), false)
    return some (branches ++ keyword ++ (← block grammar), true)) (first, false)
  return branches

/-- A loop while a condition holds. -/
def whileExpression (grammar : Grammar) : Reader Tokens := do
  let keyword ← word "while"
  let head ← headExpression grammar
  return keyword ++ head ++ (← attributedBlock grammar)

/-- A loop over the elements of something. -/
def forExpression (grammar : Grammar) : Reader Tokens := do
  let keyword ← word "for"
  let pattern ← alternativeTokens grammar
  let preposition ← word "in"
  let head ← headExpression grammar
  return keyword ++ pattern ++ preposition ++ head ++ (← attributedBlock grammar)

/-- Reads a loop without a condition. -/
def loopExpression (grammar : Grammar) : Reader Tokens := do
  return (← word "loop") ++ (← attributedBlock grammar)

/-- Reads an arm of a match. -/
def matchArm (grammar : Grammar) : Reader Tokens := do
  let attributes ← outerTokens grammar
  let pattern ← alternativeTokens grammar
  let guarded ←
    if (← get).atWord "if" then
      let keyword ← word "if"
      pure (keyword ++ (← grammar.expressionTokens))
    else pure []
  let arrow ← mark .fatArrow
  let body ← grammar.leading
  let comma ←
    if body.form ≠ .blockLike && !(← atEnd) then mark .comma else optionalMark .comma
  return attributes ++ pattern ++ guarded ++ arrow ++ body.tokens ++ comma

/-- Reads a match with all its arms. -/
def matchExpression (grammar : Grammar) : Reader Tokens := do
  let keyword ← word "match"
  let head ← headExpression grammar
  let arms ← enclosed .brace do
    let attributes ← innerAttributes grammar
    let arms ← «repeat» (fun tokens => !tokens.isEmpty) (matchArm grammar)
    return attributeTokens attributes ++ arms.flatten
  return keyword ++ head ++ arms

/-- A loop or block after its label. -/
def labeledExpression (grammar : Grammar) : Reader Tokens := do
  let label ← lifetime
  let colon ← mark .colon
  let tokens ← get
  let body ←
    if tokens.atWord "while" then whileExpression grammar
    else if tokens.atWord "for" then forExpression grammar
    else if tokens.atWord "loop" then loopExpression grammar
    else attributedBlock grammar
  return label ++ colon ++ body

/-- Whether a loop over elements rather than a closure with a binder starts here. -/
def atForLoop (tokens : Tokens) : Bool :=
  tokens.atWord "for" && !(tokens.afterOne.atMark .less &&
    (tokens.afterTwo.atLifetime || tokens.afterTwo.atMark .greater))

/-- An expression that ends with a block, if one starts here and no label stands before it. -/
def blockExpression? (grammar : Grammar) (tokens : Tokens) : Option (Reader Tokens) :=
  if tokens.atWord "if" then some (ifExpression grammar)
  else if tokens.atWord "while" then some (whileExpression grammar)
  else if atForLoop tokens then some (forExpression grammar)
  else if tokens.atWord "loop" then some (loopExpression grammar)
  else if tokens.atWord "match" then some (matchExpression grammar)
  else if tokens.atWord "try" && tokens.afterOne.atGroup .brace then
    some do return (← word "try") ++ (← block grammar)
  else if tokens.atWord "unsafe" then
    some do return (← word "unsafe") ++ (← attributedBlock grammar)
  else if tokens.atWord "const" && tokens.afterOne.atGroup .brace then
    some do return (← word "const") ++ (← attributedBlock grammar)
  else if tokens.atGroup .brace then some (attributedBlock grammar)
  else none

/-- Reads a parameter of a closure. -/
def closureParameter (grammar : Grammar) : Reader Tokens := do
  let attributes ← outerTokens grammar
  let pattern ← grammar.pattern
  if (← get).atMark .colon then
    let colon ← mark .colon
    return attributes ++ pattern.tokens ++ colon ++ (← grammar.typeTokens true)
  else return attributes ++ pattern.tokens

/-- Reads a closure. -/
def closureExpression (grammar : Grammar) (structAllowed : Bool) : Reader Tokens := do
  let binder ← optionalBinder grammar
  let constness ← optionalWord "const"
  let movability ← optionalWord "static"
  let asyncness ← optionalWord "async"
  let capturing ← optionalWord "move"
  let opening ← mark .bar
  let parameters ← separated (Tokens.atMark .bar) (Tokens.atMark .bar) .comma
    (closureParameter grammar)
  let closing ← mark .bar
  let body ←
    if (← get).atMark .thinArrow then
      let arrow ← mark .thinArrow
      let result ← grammar.typeTokens true
      pure (arrow ++ result ++ (← block grammar))
    else do pure (← grammar.expression structAllowed).tokens
  return binder ++ constness ++ movability ++ asyncness ++ capturing ++ opening ++
    joined parameters ++ closing ++ body

/-- Whether a closure comes next. -/
def atClosure (tokens : Tokens) : Bool :=
  let second := tokens.afterOne
  tokens.atMark .bar || tokens.atWord "move" ||
    (tokens.atWord "for" && !atForLoop tokens) ||
    (tokens.atWord "const" && !second.atGroup .brace) || tokens.atWord "static" ||
    (tokens.atWord "async" && (second.atMark .bar || second.atWord "move"))

/-- The value after a word that leaves a block, if there is one. -/
def optionalValue (grammar : Grammar) (structAllowed : Bool) : Reader Tokens := do
  if atExpression (← get) then return (← grammar.expression structAllowed).tokens else return []

/-- The way out of a loop or block, with a label and a value if they are given. -/
def breakExpression (grammar : Grammar) (structAllowed : Bool) : Reader Tokens := do
  let keyword ← word "break"
  let label ← optionalLifetime
  require !(!label.isEmpty && (← get).atMark .colon)
  if !structAllowed && (← get).atGroup .brace then return keyword ++ label
  else return keyword ++ label ++ (← optionalValue grammar structAllowed)

/-- A condition that binds a pattern. -/
def letExpression (grammar : Grammar) (structAllowed : Bool) : Reader Tokens := do
  let keyword ← word "let"
  let pattern ← alternativeTokens grammar
  let equals ← mark .equals
  let operand ← grammar.operand structAllowed
  let value ← grammar.operators operand structAllowed .comparison
  return keyword ++ pattern ++ equals ++ value.tokens

/-- An expression of the form that tools expand themselves. -/
def builtinExpression : Reader Tokens := do
  let keyword ← word "builtin"
  let hash ← mark .hash
  let operation ← name
  match ← anyGroup with
  | (.parenthesis, content) =>
    return keyword ++ hash ++ [.word operation, .group .parenthesis content]
  | _ => failure

/-- An atom: an expression that no operator belongs to. -/
def atom (grammar : Grammar) (structAllowed : Bool) : Reader ExprPhrase := do
  let tokens ← get
  let second := tokens.afterOne
  let third := tokens.afterTwo
  let other : Tokens → ExprPhrase := fun tokens => ⟨tokens, .other⟩
  if tokens.atLiteral then return other (← literal)
  else if tokens.atWord "async" &&
      (second.atGroup .brace || (second.atWord "move" && third.atGroup .brace)) then
    let keyword ← word "async"
    let capturing ← optionalWord "move"
    return other (keyword ++ capturing ++ (← block grammar))
  else if tokens.atWord "try" && second.atGroup .brace then
    let keyword ← word "try"
    return ⟨keyword ++ (← block grammar), .blockLike⟩
  else if atClosure tokens then return other (← closureExpression grammar structAllowed)
  else if tokens.atWord "builtin" && second.atMark .hash then return other (← builtinExpression)
  else if atPathWord tokens || tokens.atMark .pathSeparator || tokens.atMark .less ||
      (tokens.atWord "try" && (second.atMark .bang || second.atMark .pathSeparator)) then
    pathExpression grammar structAllowed
  else if tokens.atGroup .parenthesis then
    return other (← enclosed .parenthesis (commaSeparated grammar.expressionTokens))
  else if tokens.atWord "break" then return other (← breakExpression grammar structAllowed)
  else if tokens.atWord "continue" then
    let keyword ← word "continue"
    return other (keyword ++ (← optionalLifetime))
  else if tokens.atWord "return" then
    let keyword ← word "return"
    return other (keyword ++ (← optionalValue grammar structAllowed))
  else if tokens.atWord "become" then
    let keyword ← word "become"
    return other (keyword ++ (← grammar.expressionTokens))
  else if tokens.atGroup .bracket then return other (← arrayExpression grammar)
  else if tokens.atWord "let" then return other (← letExpression grammar structAllowed)
  else if tokens.atWord "yield" then
    let keyword ← word "yield"
    return other (keyword ++ (← optionalValue grammar true))
  else if tokens.atMark .dots then
    return ⟨← rangeTail grammar structAllowed, .range⟩
  else if tokens.atWord "_" then return other (← word "_")
  else if tokens.atLifetime then return ⟨← labeledExpression grammar, .blockLike⟩
  else
    match blockExpression? grammar tokens with
    | some reader => return ⟨← reader, .blockLike⟩
    | none => failure

/-- Reads an atom with its suffixes, after the given attributes. -/
def suffixedAtom (grammar : Grammar) (attributes : Tokens) (structAllowed : Bool) :
    Reader ExprPhrase := do
  let operand ← suffixes grammar (← atom grammar structAllowed)
  require (attributes.isEmpty || operand.form ≠ .range)
  return { operand with tokens := attributes ++ operand.tokens }

/-- An operand: an atom with what follows it and the prefix operators before it. -/
def operandPhrase (grammar : Grammar) (structAllowed : Bool) : Reader ExprPhrase := do
  let attributes ← outerTokens grammar
  let tokens ← get
  if tokens.atMark .ampersand then
    let ampersand ← mark .ampersand
    let tokens ← get
    let raw := tokens.atWord "raw" &&
      (tokens.afterOne.atWord "mut" || tokens.afterOne.atWord "const")
    let modifier ←
      if raw then
        let keyword ← word "raw"
        if (← get).atWord "mut" then pure (keyword ++ (← word "mut"))
        else pure (keyword ++ (← word "const"))
      else optionalWord "mut"
    let operand ← grammar.operand structAllowed
    return ⟨attributes ++ ampersand ++ modifier ++ operand.tokens, .other⟩
  else if tokens.atMark .star || tokens.atMark .bang || tokens.atMark .minus then
    let operator ←
      if tokens.atMark .star then mark .star
      else if tokens.atMark .bang then mark .bang else mark .minus
    let operand ← grammar.operand structAllowed
    return ⟨attributes ++ operator ++ operand.tokens, .other⟩
  else suffixedAtom grammar attributes structAllowed

/-- An expression at the start of a statement or as the body of a match arm. One that ends with a
block ends there, unless a point or a question mark follows. -/
def leadingExpression (grammar : Grammar) : Reader ExprPhrase := do
  let attributes ← outerTokens grammar
  let tokens ← get
  let first ←
    if tokens.atLifetime then do pure ⟨← labeledExpression grammar, .blockLike⟩
    else match blockExpression? grammar tokens with
      | some reader => do pure ⟨← reader, .blockLike⟩
      | none => grammar.operand true
  let tokens ← get
  let attributed := fun (phrase : ExprPhrase) =>
    { phrase with tokens := attributes ++ phrase.tokens }
  if first.form ≠ .blockLike then
    grammar.operators (attributed first) true .jump
  else if (tokens.atMark .dot && !tokens.atMark .dots) || tokens.atMark .question then
    let extended ← suffixes grammar first
    grammar.operators (attributed extended) true .jump
  else return attributed first

end Registrar.Source.Grammar
