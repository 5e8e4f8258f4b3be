import Registrar.Source.Grammar.Signature

/-!
# Items

An item is read after its attributes. All items are read in full, but only declarations of types
and the functions of a type named by a single word are kept apart; everything else counts as
`Item.other`.
-/

namespace Registrar.Source.Grammar

open Reader

/-- The tree of imported paths. Where a root separator may start a path, one of the alternatives in
braces may start with it. -/
def useTreeWithin (rootAllowed : Bool) : Nat → Reader Tokens
  | 0 => failure
  | depth + 1 => do
    let tokens ← get
    if atPathWord tokens || tokens.atWord "try" then
      let head : Tokens := [.word (← anyWord)]
      let tokens ← get
      if tokens.atMark .pathSeparator then
        let separator ← mark .pathSeparator
        return head ++ separator ++ (← useTreeWithin false depth)
      else if tokens.atWord "as" then
        let keyword ← word "as"
        return head ++ keyword ++ [.word (← nameOrUnderscore)]
      else return head
    else if tokens.atMark .star then mark .star
    else
      enclosed .brace (commaSeparated do
        let root ← if rootAllowed then optionalMark .pathSeparator else pure []
        return root ++ (← useTreeWithin (rootAllowed && root.isEmpty) depth))

mutual

/-- The number of trees in a tree at all depths, itself included. -/
def treesWithin : TokenTree → Nat
  | .group _ content => treeCount content + 1
  | _ => 1

/-- The number of trees in a list at all depths. -/
def treeCount : List TokenTree → Nat
  | [] => 0
  | first :: rest => treesWithin first + treeCount rest

end

/-- An import. -/
def useItem : Reader Tokens := do
  let keyword ← word "use"
  let root ← optionalMark .pathSeparator
  let tree ← useTreeWithin root.isEmpty (treeCount (← get) + 1)
  return keyword ++ root ++ tree ++ (← mark .semicolon)

/-- Reads the import of a crate. -/
def externCrateItem : Reader Tokens := do
  let keyword ← word "extern"
  let crate ← word "crate"
  let imported ← if (← get).atWord "self" then anyWord else name
  let newName ←
    if (← get).atWord "as" then
      let separator ← word "as"
      pure (separator ++ [.word (← nameOrUnderscore)])
    else pure []
  return keyword ++ crate ++ [.word imported] ++ newName ++ (← mark .semicolon)

/-- The value of a constant or variable after an equals sign, if there is one. -/
def optionalInitializer (grammar : Grammar) : Reader Tokens := do
  let equals ← optionalMark .equals
  if equals.isEmpty then return [] else return equals ++ (← grammar.expressionTokens)

/-- A variable, which may lack its type or its value. -/
def staticItem (grammar : Grammar) : Reader Tokens := do
  let keyword ← word "static"
  let mutability ← optionalWord "mut"
  let binding : Tokens := [.word (← name)]
  let rest ←
    if (← get).atMark .equals then optionalInitializer grammar
    else
      let colon ← mark .colon
      let type ← grammar.typeTokens true
      pure (colon ++ type ++ (← optionalInitializer grammar))
  return keyword ++ mutability ++ binding ++ rest ++ (← mark .semicolon)

/-- Reads a constant. -/
def constItem (grammar : Grammar) : Reader Tokens := do
  let keyword ← word "const"
  let constant : Tokens := [.word (← nameOrUnderscore)]
  let generics ← generics grammar
  let colon ← mark .colon
  let type ← grammar.typeTokens true
  let value ← optionalInitializer grammar
  let conditions ← conditions grammar
  return keyword ++ constant ++ generics ++ colon ++ type ++ value ++ conditions ++
    (← mark .semicolon)

/-- Where the conditions of a type alias may stand. -/
inductive ConditionPlace
  | beforeDefinition | afterDefinition | either
  deriving DecidableEq

/-- Bounds after a colon up to where `ends` holds, if the colon is there. -/
def optionalBounds (grammar : Grammar) (ends : Tokens → Bool) : Reader Tokens := do
  let colon ← optionalMark .colon
  if colon.isEmpty then return []
  let bounds ← separated ends ends .plus do return (← grammar.bound false true).tokens
  return colon ++ joined bounds

/-- A type alias, which may have bounds and lack a definition. -/
def typeItem (grammar : Grammar) (place : ConditionPlace) : Reader Tokens := do
  let keyword ← word "type"
  let introduced : Tokens := [.word (← name)]
  let generics ← generics grammar
  let bounds ← optionalBounds grammar fun tokens =>
    tokens.atWord "where" || tokens.atMark .equals || tokens.atMark .semicolon
  let before ← if place ≠ .afterDefinition then conditions? grammar else pure none
  let equals ← optionalMark .equals
  let definition ←
    if equals.isEmpty then pure [] else do pure (equals ++ (← grammar.typeTokens true))
  let after ←
    if place ≠ .beforeDefinition && before.isNone then conditions? grammar else pure none
  return keyword ++ introduced ++ generics ++ bounds ++ before.getD [] ++ definition ++
    after.getD [] ++ (← mark .semicolon)

/-- Reads a field with a name. -/
def namedField (grammar : Grammar) : Reader Tokens := do
  let attributes ← outerTokens grammar
  let visibility ← visibility
  let unnamed := (← get).atWord "_"
  let field ← nameOrUnderscore
  let colon ← mark .colon
  let tokens ← get
  if unnamed && (tokens.atWord "struct" ||
      (tokens.atWord "union" && tokens.afterOne.atGroup .brace)) then
    let keyword ← anyWord
    match ← anyGroup with
    | (.brace, content) =>
      return attributes ++ visibility ++ [.word field] ++ colon ++
        [.word keyword, .group .brace content]
    | _ => failure
  else
    return attributes ++ visibility ++ [.word field] ++ colon ++ (← grammar.typeTokens true)

/-- Reads a field without a name. -/
def placedField (grammar : Grammar) : Reader Tokens := do
  let attributes ← outerTokens grammar
  let visibility ← visibility
  return attributes ++ visibility ++ (← grammar.typeTokens true)

/-- Reads fields with names, in braces. -/
def namedFields (grammar : Grammar) : Reader Tokens :=
  enclosed .brace (commaSeparated (namedField grammar))

/-- Reads fields without names, in parentheses. -/
def placedFields (grammar : Grammar) : Reader Tokens :=
  enclosed .parenthesis (commaSeparated (placedField grammar))

/-- A declaration of a record. -/
def structItem (grammar : Grammar) (attributes : List Attribute) : Reader ItemPhrase := do
  let keyword ← word "struct"
  let name ← name
  let generics ← generics grammar
  let before ← conditions? grammar
  let tokens ← get
  let body ←
    if before.isNone && tokens.atGroup .parenthesis then
      let fields ← placedFields grammar
      let after ← conditions grammar
      pure (fields ++ after ++ (← mark .semicolon))
    else if tokens.atGroup .brace then namedFields grammar
    else mark .semicolon
  return ⟨.declaration .struct attributes name generics,
    keyword ++ [.word name] ++ generics ++ before.getD [] ++ body⟩

/-- Reads a variant of an enum. -/
def variant (grammar : Grammar) : Reader Tokens := do
  let attributes ← outerTokens grammar
  let _ ← visibility
  let variant : Tokens := [.word (← name)]
  let tokens ← get
  let fields ←
    if tokens.atGroup .brace then namedFields grammar
    else if tokens.atGroup .parenthesis then placedFields grammar
    else pure []
  return attributes ++ variant ++ fields ++ (← optionalInitializer grammar)

/-- A declaration of a choice of variants. -/
def enumItem (grammar : Grammar) (attributes : List Attribute) : Reader ItemPhrase := do
  let keyword ← word "enum"
  let name ← name
  let generics ← generics grammar
  let conditions ← conditions grammar
  let variants ← enclosed .brace (commaSeparated (variant grammar))
  return ⟨.declaration .enum attributes name generics,
    keyword ++ [.word name] ++ generics ++ conditions ++ variants⟩

/-- Reads a union. -/
def unionItem (grammar : Grammar) : Reader Tokens := do
  let keyword ← word "union"
  let union : Tokens := [.word (← name)]
  let generics ← generics grammar
  let conditions ← conditions grammar
  return keyword ++ union ++ generics ++ conditions ++ (← namedFields grammar)

/-- The body of a module, an implementation or a trait: attributes and members in braces. -/
def members (grammar : Grammar) (member : Reader α) : Reader (Tokens × List α) := do
  inside .brace do
    let attributes ← innerAttributes grammar
    return (attributeTokens attributes, ← «repeat» (fun tokens => !tokens.isEmpty) member)

/-- A module, in braces or in another file. -/
def moduleItem (grammar : Grammar) : Reader Tokens := do
  let safety ← optionalWord "unsafe"
  let keyword ← word "mod"
  let module : Tokens := [.word (← if (← get).atWord "try" then anyWord else name)]
  let body ←
    if (← get).atMark .semicolon then mark .semicolon
    else
      let (inner, items) ← members grammar do
        return (← grammar.item (← outerAttributes grammar)).tokens
      pure [.group .brace (inner ++ items.flatten)]
  return safety ++ keyword ++ module ++ body

/-- A macro call as a member, whose semicolon only braces may replace. -/
def macroMember : Reader Tokens := do
  let path ← plainPath
  let (body, braced) ← macroBody
  if braced then return path.tokens ++ body
  else return path.tokens ++ body ++ (← mark .semicolon)

/-- Whether a macro call may start here. -/
def atMacro (tokens : Tokens) : Bool :=
  tokens.atName || tokens.atWord "self" || tokens.atWord "super" || tokens.atWord "crate" ||
    tokens.atMark .pathSeparator

/-- Reads a member of a block of foreign items. -/
def foreignMember (grammar : Grammar) : Reader Tokens := do
  let attributes ← outerTokens grammar
  let visibility ← visibility
  let tokens ← get
  let declared := attributes ++ visibility
  if atFunction true tokens then
    let signature ← signature grammar true
    if (← get).atGroup .brace then
      return declared ++ signature.tokens ++ (← attributedBlock grammar)
    else return declared ++ signature.tokens ++ (← mark .semicolon)
  else if tokens.atWord "static" ||
      ((tokens.atWord "unsafe" || tokens.atWord "safe") && tokens.afterOne.atWord "static") then
    let safety ←
      if tokens.atWord "unsafe" then word "unsafe"
      else optionalWord "safe"
    let keyword ← word "static"
    let mutability ← optionalWord "mut"
    let binding : Tokens := [.word (← name)]
    let colon ← mark .colon
    let type ← grammar.typeTokens true
    let value ← optionalInitializer grammar
    return declared ++ safety ++ keyword ++ mutability ++ binding ++ colon ++ type ++ value ++
      (← mark .semicolon)
  else if tokens.atWord "type" then return declared ++ (← typeItem grammar .either)
  else
    require (visibility.isEmpty && atMacro tokens)
    return attributes ++ (← macroMember)

/-- Reads a block of foreign items. -/
def foreignItem (grammar : Grammar) : Reader Tokens := do
  let safety ← optionalWord "unsafe"
  require ((← get).atWord "extern")
  let convention ← optionalConvention
  let (inner, members) ← members grammar (foreignMember grammar)
  return safety ++ convention ++ [.group .brace (inner ++ members.flatten)]

/-- Reads a member of a trait. -/
def traitMember (grammar : Grammar) : Reader Tokens := do
  let attributes ← outerTokens grammar
  let visibility ← visibility
  let defaultness ← optionalWord "default"
  let tokens ← get
  let declared := attributes ++ visibility ++ defaultness
  if atFunction false tokens then
    let signature ← signature grammar false
    if (← get).atGroup .brace then
      return declared ++ signature.tokens ++ (← attributedBlock grammar)
    else return declared ++ signature.tokens ++ (← mark .semicolon)
  else if tokens.atWord "const" then return declared ++ (← constItem grammar)
  else if tokens.atWord "type" then return declared ++ (← typeItem grammar .afterDefinition)
  else
    require (visibility.isEmpty && defaultness.isEmpty && atMacro tokens)
    return attributes ++ (← macroMember)

/-- A trait or an alias of bounds. Only a trait may be unsafe or automatic. -/
def traitItem (grammar : Grammar) : Reader Tokens := do
  let safety ← optionalWord "unsafe"
  let automatic ← optionalWord "auto"
  let keyword ← word "trait"
  let trait : Tokens := [.word (← name)]
  let generics ← generics grammar
  if safety.isEmpty && automatic.isEmpty && (← get).atMark .equals then
    let equals ← mark .equals
    let ends := fun tokens => Tokens.atWord "where" tokens || tokens.atMark .semicolon
    let bounds ← separated ends ends .plus do return (← grammar.bound false true).tokens
    let conditions ← conditions grammar
    return keyword ++ trait ++ generics ++ equals ++ joined bounds ++ conditions ++
      (← mark .semicolon)
  else
    let bounds ← optionalBounds grammar fun tokens =>
      tokens.atWord "where" || tokens.atGroup .brace
    let conditions ← conditions grammar
    let (inner, members) ← members grammar (traitMember grammar)
    return safety ++ automatic ++ keyword ++ trait ++ generics ++ bounds ++ conditions ++
      [.group .brace (inner ++ members.flatten)]

/-- A member of an implementation, with its signature where it is a function with a body. -/
def implementationMember (grammar : Grammar) : Reader (Tokens × Option Signature) := do
  let attributes ← outerTokens grammar
  let visibility ← visibility
  let tokens ← get
  let defaultness ←
    if tokens.atWord "default" && !tokens.afterOne.atMark .bang then word "default" else pure []
  let tokens ← get
  let declared := attributes ++ visibility ++ defaultness
  if atFunction false tokens then
    let signature ← signature grammar false
    if (← get).atMark .semicolon then
      return (declared ++ signature.tokens ++ (← mark .semicolon), none)
    else
      return (declared ++ signature.tokens ++ (← attributedBlock grammar), some signature)
  else if tokens.atWord "const" then return (declared ++ (← constItem grammar), none)
  else if tokens.atWord "type" then
    return (declared ++ (← typeItem grammar .afterDefinition), none)
  else
    require (visibility.isEmpty && defaultness.isEmpty && atMacro tokens)
    return (attributes ++ (← macroMember), none)

/-- An implementation after its visibility. It holds functions of a type that is named by a single
word unless it is public, conditional or one of a trait. -/
def implementationItem (grammar : Grammar) (exposed : Bool) : Reader ItemPhrase := do
  let defaultness ← optionalWord "default"
  let safety ← optionalWord "unsafe"
  let keyword ← word "impl"
  let generics ← if atGenerics (← get) then generics grammar else pure []
  let tokens ← get
  let condition ←
    if tokens.atWord "const" || (tokens.atMark .question && tokens.afterOne.atWord "const") then
      let relaxation ← optionalMark .question
      pure (relaxation ++ (← word "const"))
    else pure []
  let tokens ← get
  let polarity ←
    if tokens.atMark .bang && !tokens.afterOne.atGroup .brace then mark .bang else pure []
  let first ← grammar.typeExpr true
  let ofTrait := (← get).atWord "for"
  let subject ←
    if ofTrait then
      let preposition ← word "for"
      pure (preposition ++ (← grammar.typeTokens true))
    else
      require polarity.isEmpty
      pure []
  let conditions ← conditions grammar
  let (inner, members) ← members grammar (implementationMember grammar)
  let owner := match first.form with
    | .path path => path.only?.map Segment.name
    | _ => none
  let item := match owner with
    | some owner =>
      if exposed || !condition.isEmpty || ofTrait then Item.other
      else .functions owner (members.filterMap Prod.snd)
    | none => .other
  return ⟨item, defaultness ++ safety ++ keyword ++ generics ++ condition ++ polarity ++
    first.tokens ++ subject ++ conditions ++
    [.group .brace (inner ++ (members.map Prod.fst).flatten)]⟩

/-- Reads a function, with or without a body. -/
def functionItem (grammar : Grammar) : Reader Tokens := do
  let signature ← signature grammar false
  if (← get).atMark .semicolon then return signature.tokens ++ (← mark .semicolon)
  else return signature.tokens ++ (← attributedBlock grammar)

/-- Reads the definition of a macro. -/
def macroItem : Reader Tokens := do
  let keyword ← word "macro"
  let defined : Tokens := [.word (← name)]
  let parameters ←
    if (← get).atGroup .parenthesis then
      let (delimiter, content) ← anyGroup
      pure [.group delimiter content]
    else pure []
  match ← anyGroup with
  | (.brace, content) => return keyword ++ defined ++ parameters ++ [.group .brace content]
  | _ => failure

/-- Reads a call of a macro that is an item. -/
def macroCallItem : Reader Tokens := do
  let path ← plainPath
  let bang ← mark .bang
  let tokens ← get
  let defined ← if tokens.atName || tokens.atWord "try" then pure [.word (← anyWord)] else pure []
  let (delimiter, content) ← anyGroup
  let semicolon ← if delimiter = .brace then pure [] else mark .semicolon
  return path.tokens ++ bang ++ defined ++ [.group delimiter content] ++ semicolon

/-- Reads an item after its attributes and its visibility. -/
def visibleItem (grammar : Grammar) (attributes : List Attribute) (exposed : Bool) :
    Reader ItemPhrase := do
  let tokens ← get
  let second := tokens.afterOne
  let other : Tokens → ItemPhrase := fun tokens => ⟨.other, tokens⟩
  if atFunction false tokens then return other (← functionItem grammar)
  else if tokens.atWord "extern" then
    if second.atWord "crate" then return other (← externCrateItem)
    else
      require !exposed
      return other (← foreignItem grammar)
  else if tokens.atWord "use" then return other (← useItem)
  else if tokens.atWord "static" then return other (← staticItem grammar)
  else if tokens.atWord "const" then return other (← constItem grammar)
  else if tokens.atWord "unsafe" then
    if second.atWord "trait" || (second.atWord "auto" && tokens.afterTwo.atWord "trait") then
      return other (← traitItem grammar)
    else if second.atWord "impl" then implementationItem grammar exposed
    else if second.atWord "extern" then
      require !exposed
      return other (← foreignItem grammar)
    else return other (← moduleItem grammar)
  else if tokens.atWord "mod" then return other (← moduleItem grammar)
  else if tokens.atWord "type" then return other (← typeItem grammar .beforeDefinition)
  else if tokens.atWord "struct" then structItem grammar attributes
  else if tokens.atWord "enum" then enumItem grammar attributes
  else if tokens.atWord "union" && second.atName then return other (← unionItem grammar)
  else if tokens.atWord "trait" || (tokens.atWord "auto" && second.atWord "trait") then
    return other (← traitItem grammar)
  else if tokens.atWord "impl" || (tokens.atWord "default" && !second.atMark .bang) then
    implementationItem grammar exposed
  else if tokens.atWord "macro" then return other (← macroItem)
  else
    require (!exposed && atMacro tokens)
    return other (← macroCallItem)

/-- Reads an item after its attributes. -/
def itemPhrase (grammar : Grammar) (attributes : List Attribute) : Reader ItemPhrase := do
  let visibility ← visibility
  let phrase ← visibleItem grammar attributes (!visibility.isEmpty)
  return { phrase with tokens := attributeTokens attributes ++ visibility ++ phrase.tokens }

end Registrar.Source.Grammar
