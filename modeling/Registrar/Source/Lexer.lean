import Registrar.Source.Literal
import Registrar.Source.Token
import Registrar.Text.Blank
import Registrar.Text.Quoted

/-!
# From characters to token trees

A text is first cut into lexemes: leaves of token trees and single brackets. Blanks and ordinary
comments separate lexemes and are dropped; a documentation comment stands for the attribute that
carries its text. Brackets are then matched. `tokenTrees?` does both and fails where either fails.
-/

namespace Registrar.Source

open Registrar.Text

/-- A piece of text before brackets are matched. -/
inductive Lexeme
  | opening (delimiter : Delimiter)
  | closing (delimiter : Delimiter)
  | leaf (tree : TokenTree)
  deriving Repr, Inhabited

namespace Lexeme

/-- What follows the characters of a line, from its line break on. -/
def afterLine (text : List Char) : List Char :=
  text.dropWhile (· ≠ '\n')

/-- Reads up to the mark that closes the outermost of `depth` open comments: the inside and what
follows the mark. -/
def blockComment (depth : Nat) : List Char → Option (List Char × List Char)
  | [] => none
  | '/' :: '*' :: rest =>
    (blockComment (depth + 1) rest).map fun (inside, after) => ('/' :: '*' :: inside, after)
  | '*' :: '/' :: rest =>
    if depth ≤ 1 then some ([], rest)
    else (blockComment (depth - 1) rest).map fun (inside, after) => ('*' :: '/' :: inside, after)
  | character :: rest =>
    (blockComment depth rest).map fun (inside, after) => (character :: inside, after)

/-- Whether a character separates lexemes: blanks and the two direction marks. -/
def isSeparator (character : Char) : Bool :=
  isBlank character || character == '\u200e' || character == '\u200f'

/-- What follows the separator or ordinary comment at the start of a text, if there is one. -/
def afterSeparator? : List Char → Option (List Char)
  | '/' :: '/' :: '/' :: '/' :: rest => some (afterLine rest)
  | '/' :: '/' :: '/' :: _ => none
  | '/' :: '/' :: '!' :: _ => none
  | '/' :: '/' :: rest => some (afterLine rest)
  | '/' :: '*' :: '*' :: '/' :: rest => some rest
  | '/' :: '*' :: '*' :: '*' :: rest => (blockComment 1 ('*' :: '*' :: rest)).map (·.2)
  | '/' :: '*' :: '*' :: _ => none
  | '/' :: '*' :: '!' :: _ => none
  | '/' :: '*' :: rest => (blockComment 1 rest).map (·.2)
  | character :: rest => if isSeparator character then some rest else none
  | [] => none

/-- A line without the carriage return that belongs to its line break. -/
def commentLine (text : List Char) : List Char :=
  let line := text.takeWhile (· ≠ '\n')
  if line.length < text.length ∧ line.getLast? = some '\r' then line.dropLast else line

/-- The documentation comment at the start of a text: whether it documents what encloses it, its
text, and what follows it. -/
def documentation? : List Char → Option (Bool × List Char × List Char)
  | '/' :: '/' :: '!' :: rest => some (true, commentLine rest, afterLine rest)
  | '/' :: '/' :: '/' :: rest => some (false, commentLine rest, afterLine rest)
  | '/' :: '*' :: '!' :: rest =>
    (blockComment 1 ('!' :: rest)).bind fun (inside, after) => some (true, inside.drop 1, after)
  | '/' :: '*' :: '*' :: rest =>
    (blockComment 1 ('*' :: rest)).bind fun (inside, after) => some (false, inside.drop 1, after)
  | _ => none

/-- Whether every carriage return stands before a line feed. -/
def returnsPaired : List Char → Bool
  | [] => true
  | '\r' :: '\n' :: rest => returnsPaired rest
  | character :: rest => character != '\r' && returnsPaired rest

/-- The spelling of the text of a documentation comment as a string literal. A zero character is
spelled so that a following digit does not become part of it. -/
def documentationSpelling : List Char → List Char
  | [] => []
  | character :: rest =>
    (if character = '\x00' then
      match rest with
      | next :: _ => if '0' ≤ next ∧ next ≤ '7' then ['\\', 'x', '0', '0'] else ['\\', '0']
      | [] => ['\\', '0']
    else escapeCharacter false character) ++ documentationSpelling rest

/-- The lexemes of the attribute that a documentation comment stands for. -/
def ofDocumentation (inner : Bool) (text : List Char) : List Lexeme :=
  let spelling := String.ofList ('"' :: documentationSpelling text ++ ['"'])
  [.leaf (.mark '#' false)] ++ (if inner then [.leaf (.mark '!' false)] else []) ++
    [.opening .bracket, .leaf (.word "doc"), .leaf (.mark '=' false), .leaf (.literal spelling),
      .closing .bracket]

/-- The characters that marks are made of. -/
def markCharacters : List Char :=
  ['~', '!', '@', '#', '$', '%', '^', '&', '*', '-', '=', '+', '|', ';', ':', ',', '<', '.', '>',
    '/', '?', '\'']

/-- Whether a punctuation mark starts a text; the start of a comment is none. -/
def startsWithMark : List Char → Bool
  | '/' :: '/' :: _ => false
  | '/' :: '*' :: _ => false
  | character :: _ => markCharacters.contains character
  | [] => false

/-- The words that cannot be written with `r#`. -/
def neverRaw : List String := ["_", "super", "self", "Self", "crate"]

/-- Reads a word, with `r#` in front of it if it has that. -/
def word? (text : List Char) : Option (String × List Char) :=
  match text with
  | 'r' :: '#' :: rest =>
    (Literal.afterIdentifier? rest).bind fun after =>
      let name := String.ofList (rest.take (rest.length - after.length))
      if neverRaw.contains name then none else some ("r#" ++ name, after)
  | _ =>
    (Literal.afterIdentifier? text).map fun after =>
      (String.ofList (text.take (text.length - after.length)), after)

/-- Reads a punctuation mark. An apostrophe is one only before a word that starts a lifetime. -/
def mark? (text : List Char) : Option (TokenTree × List Char) :=
  match text with
  | [] => none
  | character :: rest =>
    if !startsWithMark text then none
    else if character = '\'' then
      match word? rest with
      | none => none
      | some (name, after) =>
        match after with
        | '\'' :: _ => none
        | '#' :: _ => if name.startsWith "r#" then some (.mark '\'' true, rest) else none
        | _ => some (.mark '\'' true, rest)
    else some (.mark character (startsWithMark rest), rest)

/-- Whether a text starts like a string of a prefixed kind; no word starts there. -/
def startsWithStringPrefix : List Char → Bool
  | 'r' :: '"' :: _ => true
  | 'r' :: '#' :: '"' :: _ => true
  | 'r' :: '#' :: '#' :: _ => true
  | 'b' :: '"' :: _ => true
  | 'b' :: '\'' :: _ => true
  | 'b' :: 'r' :: '"' :: _ => true
  | 'b' :: 'r' :: '#' :: _ => true
  | 'c' :: '"' :: _ => true
  | 'c' :: 'r' :: '"' :: _ => true
  | 'c' :: 'r' :: '#' :: _ => true
  | _ => false

/-- Reads a leaf of a token tree: a literal, else a mark, else a word. -/
def leaf? (text : List Char) : Option (TokenTree × List Char) :=
  match Literal.after? text with
  | some after =>
    some (.literal (String.ofList (text.take (text.length - after.length))), after)
  | none =>
    mark? text <|>
      if startsWithStringPrefix text then none
      else (word? text).map fun (name, after) => (.word name, after)

/-- The bracket that a character is. -/
def bracket? : Char → Option Lexeme
  | '(' => some (.opening .parenthesis)
  | '[' => some (.opening .bracket)
  | '\x7b' => some (.opening .brace)
  | ')' => some (.closing .parenthesis)
  | ']' => some (.closing .bracket)
  | '\x7d' => some (.closing .brace)
  | _ => none

/-- The text that stands for a tree that cannot be shown; it counts as a literal. -/
def placeholder : List Char := "(/*ERROR*/)".toList

/-- Cuts a text into lexemes within the given number of steps. Every step takes at least one
character, so the length of the text is always enough. -/
def ofTextWithin : Nat → List Char → Option (List Lexeme)
  | _, [] => some []
  | 0, _ :: _ => none
  | steps + 1, character :: rest =>
    let text := character :: rest
    match afterSeparator? text with
    | some after => ofTextWithin steps after
    | none =>
      match documentation? text with
      | some (inner, comment, after) =>
        if returnsPaired comment then
          (ofTextWithin steps after).map (ofDocumentation inner comment ++ ·)
        else none
      | none =>
        if placeholder.isPrefixOf text then
          (ofTextWithin steps (text.drop placeholder.length)).map
            (.leaf (.literal (String.ofList placeholder)) :: ·)
        else
          match bracket? character with
          | some bracket => (ofTextWithin steps rest).map (bracket :: ·)
          | none =>
            match leaf? text with
            | some (tree, after) => (ofTextWithin steps after).map (.leaf tree :: ·)
            | none => none

/-- The lexemes of a text. -/
def ofText? (text : List Char) : Option (List Lexeme) :=
  ofTextWithin text.length text

/-- Matches brackets. `enclosing` holds the open groups from the inside out, each with what stood
before it, and `current` the trees of the innermost open group, all in reverse. -/
def treesOf (enclosing : List (Delimiter × Tokens)) (current : Tokens) :
    List Lexeme → Option Tokens
  | [] => if enclosing.isEmpty then some current.reverse else none
  | .leaf tree :: rest => treesOf enclosing (tree :: current) rest
  | .opening delimiter :: rest => treesOf ((delimiter, current) :: enclosing) [] rest
  | .closing delimiter :: rest =>
    match enclosing with
    | [] => none
    | (opened, before) :: enclosing =>
      if opened = delimiter then
        treesOf enclosing (.group delimiter current.reverse :: before) rest
      else none

end Lexeme

/-- The token trees of a text, in which all brackets match. -/
def tokenTrees? (text : List Char) : Option Tokens :=
  (Lexeme.ofText? text).bind (Lexeme.treesOf [] [])

end Registrar.Source
