import Registrar.Source.Reader

/-!
# Pieces of syntax

What the readers of the grammar give back. Every piece holds its normal form as token trees; beside
that it holds only what decides how the text after it is read, or what a declaration is judged by.
-/

namespace Registrar.Source

/-- One segment of a path with its generic arguments, which are empty where none are written. -/
structure Segment where
  name : String
  arguments : Tokens
  deriving Repr, Inhabited

/-- A path without a qualified part. -/
structure Path where
  leading : Tokens
  segments : List Segment
  deriving Repr, Inhabited

namespace Path

/-- The path that is a single word. -/
def ofWord (name : String) : Path := ⟨[], [⟨name, []⟩]⟩

/-- The normal form of a path. -/
def tokens (path : Path) : Tokens :=
  path.leading ++ (Reader.markTokens Mark.pathSeparator.characters).intercalate
    (path.segments.map fun segment => .word segment.name :: segment.arguments)

/-- Whether no segment has generic arguments. -/
def isPlain (path : Path) : Bool :=
  path.segments.all fun segment => segment.arguments.isEmpty

/-- The name at the end of a path. -/
def lastName? (path : Path) : Option String :=
  path.segments.getLast?.map Segment.name

/-- The only segment of a path that starts without a separator. -/
def only? (path : Path) : Option Segment :=
  match path.leading, path.segments with
  | [], [segment] => some segment
  | _, _ => none

end Path

/-- A path, or one that begins with a type in angle brackets. -/
inductive QualifiedPath
  | plain (path : Path)
  | qualified (tokens : Tokens)
  deriving Repr, Inhabited

/-- The trees of a path. -/
def QualifiedPath.tokens : QualifiedPath → Tokens
  | plain path => path.tokens
  | qualified tokens => tokens

/-- What decides how a type is read on. A `bounds` type is a sum of bounds without a leading word;
`sole` is the normal form of its only bound without brackets, where it has only one. -/
inductive TypeForm
  | path (path : Path)
  | bounds (sole : Option Tokens)
  | other
  deriving Repr, Inhabited

/-- A type, with what later decisions ask about it. -/
structure TypePhrase where
  tokens : Tokens
  form : TypeForm
  deriving Repr, Inhabited

/-- The kinds of bounds. -/
inductive BoundKind
  | ofTrait | lifetime | capture | conditional
  deriving DecidableEq, Repr

/-- A bound with its kind. -/
structure BoundPhrase where
  kind : BoundKind
  tokens : Tokens
  deriving Repr

/-- What later decisions ask about an expression. -/
inductive ExprForm
  /-- Ends with a block, so that a statement of it needs no semicolon. -/
  | blockLike
  /-- A macro call, in braces or not. -/
  | macroCall (braced : Bool)
  /-- A range. -/
  | range
  /-- A comparison that is not in brackets. -/
  | comparison
  | other
  deriving DecidableEq, Repr, Inhabited

/-- An expression with its form. -/
structure ExprPhrase where
  tokens : Tokens
  form : ExprForm
  deriving Repr, Inhabited

/-- A pattern; `openRange` marks a range that lacks one of its ends. -/
structure PatternPhrase where
  tokens : Tokens
  openRange : Bool
  deriving Repr, Inhabited

/-- How tightly operators bind, from the loosest to the tightest. -/
inductive Precedence
  | jump | assign | range | disjunction | conjunction | binding | comparison | bitOr | bitXor
  | bitAnd | shift | sum | product | cast
  deriving DecidableEq, Repr

/-- How tightly operators bind. -/
def Precedence.rank (precedence : Precedence) : Nat := precedence.ctorIdx

/-- The argument of an attribute: nothing, a group of any trees, or a value after an equals sign.
`literal` is the spelling of the value where it is a single literal. -/
inductive AttributeArgument
  | absent
  | list (delimiter : Delimiter) (content : Tokens)
  | value (tokens : Tokens) (literal : Option String)
  deriving Repr, Inhabited

/-- An attribute, with `inner` set where it belongs to what encloses it. -/
structure Attribute where
  inner : Bool
  path : Path
  argument : AttributeArgument
  deriving Repr, Inhabited

namespace Attribute

/-- The normal form of what stands in the brackets of an attribute. -/
def content (self : Attribute) : Tokens :=
  self.path.tokens ++ match self.argument with
    | .absent => []
    | .list delimiter content => [.group delimiter content]
    | .value tokens _ => Reader.markTokens Mark.equals.characters ++ tokens

/-- The normal form of an attribute. -/
def tokens (self : Attribute) : Tokens :=
  [.mark '#' false] ++ (if self.inner then [.mark '!' false] else []) ++
    [.group .bracket self.content]

end Attribute

/-- The normal form of a list of attributes. -/
def attributeTokens (attributes : List Attribute) : Tokens :=
  attributes.flatMap Attribute.tokens

/-- The signature of a function. The inputs are the types of all parameters but the receiver. -/
structure Signature where
  name : String
  hasReceiver : Bool
  inputs : List Tokens
  output : Option Tokens
  tokens : Tokens
  deriving Repr, Inhabited

/-- The kinds of declarations that can carry a marker. -/
inductive DeclarationKind
  | struct | enum
  deriving DecidableEq, Repr

/-- What a top-level item is, as far as a scan is concerned. -/
inductive Item
  /-- The declaration of a record or of a choice of variants, with its parameter list. -/
  | declaration (kind : DeclarationKind) (attributes : List Attribute) (name : String)
      (generics : Tokens)
  /-- The functions of a type that is named by a single word. -/
  | functions (owner : String) (signatures : List Signature)
  | other
  deriving Repr, Inhabited

/-- An item with its trees. -/
structure ItemPhrase where
  item : Item
  tokens : Tokens
  deriving Repr, Inhabited

/-- The recursive readers of a grammar. The readers of every piece of syntax are functions of this
structure, and the grammar itself is the structure built from them. -/
structure Grammar where
  /-- A type; the argument says whether further bounds may follow after a plus sign. -/
  typeExpr : Bool → Reader TypePhrase
  /-- A bound; the arguments say whether captures and conditions may be used. -/
  bound : Bool → Bool → Reader BoundPhrase
  /-- An operand; the argument says whether a brace after a path starts a struct expression. -/
  operand : Bool → Reader ExprPhrase
  /-- The operators after an operand that bind at least as tightly as the precedence. -/
  operators : ExprPhrase → Bool → Precedence → Reader ExprPhrase
  /-- An expression where a statement or a match arm may end early. -/
  leading : Reader ExprPhrase
  /-- A pattern without alternatives. -/
  pattern : Reader PatternPhrase
  /-- The statements up to the end of a block. -/
  statements : Reader Tokens
  /-- An item after its attributes. -/
  item : List Attribute → Reader ItemPhrase

namespace Grammar

/-- The grammar that reads nothing, where the depth is used up. -/
def nothing : Grammar where
  typeExpr _ := failure
  bound _ _ := failure
  operand _ := failure
  operators _ _ _ := failure
  leading := failure
  pattern := failure
  statements := failure
  item _ := failure

/-- Reads an expression. -/
def expression (grammar : Grammar) (structAllowed : Bool) : Reader ExprPhrase := do
  let operand ← grammar.operand structAllowed
  grammar.operators operand structAllowed .jump

/-- An expression of which only the normal form matters. -/
def expressionTokens (grammar : Grammar) : Reader Tokens := do
  return (← grammar.expression true).tokens

/-- A type of which only the normal form matters. -/
def typeTokens (grammar : Grammar) (plusAllowed : Bool) : Reader Tokens := do
  return (← grammar.typeExpr plusAllowed).tokens

end Grammar

end Registrar.Source
