import Registrar.Document
import Registrar.Text.Hexadecimal

/-!
# Documents in JSON

A text is read as one value with blanks around it. A string whose escapes give half of a pair of
code units is a value, but no text.
-/

namespace Registrar.Json

/-- What follows the blanks at the start of a text. -/
def skipBlanks : List Char → List Char
  | [] => []
  | character :: rest =>
    if character = ' ' ∨ character = '\n' ∨ character = '\t' ∨ character = '\r' then
      skipBlanks rest
    else character :: rest

/-- The number that four hexadecimal digits spell. -/
def codeUnit? (a b c d : Char) : Option Nat := Text.hexNumber? [a, b, c, d]

/-- What an escape by a single letter stands for. -/
def escaped? : Char → Option Char
  | '"' => some '"'
  | '\\' => some '\\'
  | '/' => some '/'
  | 'b' => some '\x08'
  | 'f' => some '\x0c'
  | 'n' => some '\n'
  | 'r' => some '\r'
  | 't' => some '\t'
  | _ => none

/-- The code units of a string up to the closing quote, and what follows it. -/
def stringUnits? : List Char → Option (List Nat × List Char)
  | [] => none
  | '"' :: rest => some ([], rest)
  | '\\' :: 'u' :: a :: b :: c :: d :: rest => do
    let unit ← codeUnit? a b c d
    let (units, rest) ← stringUnits? rest
    return (unit :: units, rest)
  | '\\' :: letter :: rest => do
    let character ← escaped? letter
    let (units, rest) ← stringUnits? rest
    return (character.toNat :: units, rest)
  | character :: rest =>
    if character.toNat < 0x20 ∨ character = '\\' then none
    else do
      let (units, rest) ← stringUnits? rest
      return (character.toNat :: units, rest)

/-- The text of code units, of which two that are halves of a pair give one character. -/
def textOfUnits? : List Nat → Option (List Char)
  | [] => some []
  | high :: low :: rest =>
    if 0xD800 ≤ high ∧ high ≤ 0xDBFF then
      if 0xDC00 ≤ low ∧ low ≤ 0xDFFF then
        (textOfUnits? rest).map
          (Char.ofNat (0x10000 + (high - 0xD800) * 0x400 + (low - 0xDC00)) :: ·)
      else none
    else if 0xDC00 ≤ high ∧ high ≤ 0xDFFF then none
    else (textOfUnits? (low :: rest)).map (Char.ofNat high :: ·)
  | [unit] => if 0xD800 ≤ unit ∧ unit ≤ 0xDFFF then none else some [Char.ofNat unit]

/-- The text of a string after its opening quote, if it is one, and what follows the string. -/
def string? (text : List Char) : Option (Option String × List Char) := do
  let (units, rest) ← stringUnits? text
  return ((textOfUnits? units).map String.ofList, rest)

/-- What follows the digits at the start of a text, of which there has to be one. -/
def afterDigits? (text : List Char) : Option (List Char) :=
  if (text.takeWhile Char.isDigit).isEmpty then none else some (text.dropWhile Char.isDigit)

/-- What follows a number whose sign was read. -/
def afterNumber? (text : List Char) : Option (List Char) := do
  let rest ← match text with
    | '0' :: rest => if (rest.head?.map Char.isDigit).getD false then none else some rest
    | _ => afterDigits? text
  let rest ← match rest with
    | '.' :: rest => afterDigits? rest
    | _ => some rest
  match rest with
  | 'e' :: '+' :: rest => afterDigits? rest
  | 'e' :: '-' :: rest => afterDigits? rest
  | 'e' :: rest => afterDigits? rest
  | 'E' :: '+' :: rest => afterDigits? rest
  | 'E' :: '-' :: rest => afterDigits? rest
  | 'E' :: rest => afterDigits? rest
  | _ => some rest

mutual

/-- The value at the start of a text and what follows it, within a number of nested steps. -/
def valueWithin? : Nat → List Char → Option (Document × List Char)
  | 0, _ => none
  | steps + 1, text =>
    match skipBlanks text with
    | 'n' :: 'u' :: 'l' :: 'l' :: rest => some (.null none, rest)
    | 't' :: 'r' :: 'u' :: 'e' :: rest => some (.other, rest)
    | 'f' :: 'a' :: 'l' :: 's' :: 'e' :: rest => some (.other, rest)
    | '"' :: rest => (string? rest).map fun (text, rest) =>
      (match text with | some text => .text text | none => .other, rest)
    | '[' :: rest =>
      match skipBlanks rest with
      | ']' :: rest => some (.list [], rest)
      | rest => (itemsWithin? steps rest).map fun (items, rest) => (.list items, rest)
    | '\x7b' :: rest =>
      match skipBlanks rest with
      | '\x7d' :: rest => some (.table [], rest)
      | rest => (entriesWithin? steps rest).map fun (entries, rest) => (.table entries, rest)
    | '-' :: rest => (afterNumber? rest).map fun rest => (.other, rest)
    | text => (afterNumber? text).map fun rest => (.other, rest)

/-- The items of a list up to its end. -/
def itemsWithin? : Nat → List Char → Option (List Document × List Char)
  | 0, _ => none
  | steps + 1, text => do
    let (item, rest) ← valueWithin? steps text
    match skipBlanks rest with
    | ']' :: rest => return ([item], rest)
    | ',' :: rest =>
      let (items, rest) ← itemsWithin? steps rest
      return (item :: items, rest)
    | _ => none

/-- The entries of a table up to its end. -/
def entriesWithin? : Nat → List Char → Option (List (Option String × Document) × List Char)
  | 0, _ => none
  | steps + 1, text => do
    match skipBlanks text with
    | '"' :: rest =>
      let (key, rest) ← string? rest
      match skipBlanks rest with
      | ':' :: rest =>
        let (value, rest) ← valueWithin? steps rest
        match skipBlanks rest with
        | '\x7d' :: rest => return ([(key, value)], rest)
        | ',' :: rest =>
          let (entries, rest) ← entriesWithin? steps rest
          return ((key, value) :: entries, rest)
        | _ => none
      | _ => none
    | _ => none

end

/-- The document of a text. -/
def read? (text : List Char) : Option Document := do
  let (value, rest) ← valueWithin? (text.length + 1) text
  if (skipBlanks rest).isEmpty then some value else none

end Registrar.Json
