import Registrar.Source.Grammar.Closure
import Registrar.Source.Lexer

/-!
# Source files

A source file is a list of items. A mark of byte order at its start is dropped, and so is a first
line that names an interpreter, unless an attribute starts there.
-/

namespace Registrar.Source

open Grammar Reader

/-- Drops blanks and ordinary comments, within a number of steps. -/
def afterSeparatorsWithin : Nat → List Char → List Char
  | 0, text => text
  | steps + 1, text =>
    match Lexeme.afterSeparator? text with
    | some after => afterSeparatorsWithin steps after
    | none => text

/-- A text without the mark of the byte order in front of it. -/
def withoutByteOrderMark : List Char → List Char
  | '\ufeff' :: rest => rest
  | text => text

/-- Drops a first line that names an interpreter. -/
def withoutInterpreter (text : List Char) : List Char :=
  match text with
  | '#' :: '!' :: rest =>
    match afterSeparatorsWithin rest.length rest with
    | '[' :: _ => text
    | _ => Lexeme.afterLine text
  | _ => text

/-- The token trees of a text, which may start with a mark of byte order. -/
def readTokens? (text : List Char) : Option Tokens :=
  tokenTrees? (withoutByteOrderMark text)

/-- The items of a source file; nothing where the text is not one. -/
def items? (text : List Char) : Option (List Item) := do
  let tokens ← readTokens? (withoutInterpreter (withoutByteOrderMark text))
  let grammar := forTokens tokens
  whole (do
    let _ ← innerAttributes grammar
    «repeat» (fun tokens => !tokens.isEmpty) do
      return (← grammar.item (← outerAttributes grammar)).item) tokens

/-- Whether a text is a single word that may name something, apart from blanks and comments. -/
def isName (text : List Char) : Bool :=
  match readTokens? text with
  | some tokens => (whole name tokens).isSome
  | none => false

/-- Whether a text spells a path. -/
def isPath (text : List Char) : Bool :=
  match readTokens? text with
  | some tokens => (whole (path (forTokens tokens) false) tokens).isSome
  | none => false

/-- Whether a text spells a type. -/
def isType (text : List Char) : Bool :=
  match readTokens? text with
  | some tokens => (whole ((forTokens tokens).typeExpr true) tokens).isSome
  | none => false

end Registrar.Source
