import Registrar.Source.Syntax

/-!
# Attributes

An attribute holds a path, alone, with a group of any trees, or with an equals sign and an
expression. A value that is a single literal is kept apart from other expressions.
-/

namespace Registrar.Source.Grammar

open Reader

/-- Whether a word comes next that a path may begin with. -/
def atPathWord (tokens : Tokens) : Bool :=
  tokens.atName || tokens.atWord "super" || tokens.atWord "self" || tokens.atWord "Self" ||
    tokens.atWord "crate"

/-- A path without generic arguments. -/
def plainPath : Reader Path := do
  let leading ← optionalMark .pathSeparator
  let segment : Reader Segment := do
    require (atPathWord (← get))
    return ⟨← anyWord, []⟩
  let first ← segment
  let others ← «repeat» (Tokens.atMark .pathSeparator) do
    let _ ← mark .pathSeparator
    segment
  return ⟨leading, first :: others⟩

/-- The path of an attribute, which may also be the word for unsafety. -/
def attributePath : Reader Path := do
  if (← get).atWord "unsafe" then return .ofWord (← anyWord) else plainPath

/-- The value of an attribute with the equals sign before it. -/
def attributeValue (grammar : Grammar) : Reader AttributeArgument := do
  let _ ← mark .equals
  let tokens ← get
  let alone : Option Tokens := if tokens.atLiteral then whole literal tokens else none
  match alone with
  | some value =>
    set ([] : Tokens)
    return .value value (match value with
      | [.literal spelling] => some spelling
      | _ => none)
  | none =>
    require !(tokens.atMark .hash && tokens.afterOne.atGroup .bracket)
    return .value (← grammar.expressionTokens) none

/-- Reads what is in the brackets of an attribute. -/
def attributeContent (grammar : Grammar) (inner : Bool) : Reader Attribute := do
  let path ← attributePath
  let tokens ← get
  if tokens.atAnyGroup then
    let (delimiter, content) ← anyGroup
    return ⟨inner, path, .list delimiter content⟩
  else if tokens.atMark .equals then
    return ⟨inner, path, ← attributeValue grammar⟩
  else
    return ⟨inner, path, .absent⟩

/-- Reads an attribute in front of what it is about. -/
def outerAttribute (grammar : Grammar) : Reader Attribute := do
  let _ ← mark .hash
  inside .bracket (attributeContent grammar false)

/-- Reads the attributes in front of what they are about. -/
def outerAttributes (grammar : Grammar) : Reader (List Attribute) :=
  «repeat» (Tokens.atMark .hash) (outerAttribute grammar)

/-- Reads the attributes at the start of what they are about. -/
def innerAttributes (grammar : Grammar) : Reader (List Attribute) :=
  «repeat» (fun tokens => tokens.atMark .hash && tokens.afterOne.atMark .bang) do
    let _ ← mark .hash
    let _ ← mark .bang
    inside .bracket (attributeContent grammar true)

/-- The normal form of the attributes of what follows. -/
def outerTokens (grammar : Grammar) : Reader Tokens := do
  return attributeTokens (← outerAttributes grammar)

/-- A block without attributes of its own. -/
def block (grammar : Grammar) : Reader Tokens :=
  enclosed .brace grammar.statements

/-- Reads a block, which may begin with attributes. -/
def attributedBlock (grammar : Grammar) : Reader Tokens :=
  enclosed .brace do
    let attributes ← innerAttributes grammar
    return attributeTokens attributes ++ (← grammar.statements)

end Registrar.Source.Grammar
