import Registrar.Text.Hexadecimal
import Registrar.Text.Identifier

/-!
# Literals

Where a literal ends and, for string literals, which text it denotes. Each reader takes the
characters from some point on and gives back those after what it read; it fails where no literal
of its kind starts. The kinds are tried in a fixed order by `Literal.after?`.

`stringBody` reads and decodes at the same time, so a string is well formed exactly when it denotes
something.
-/

namespace Registrar.Source.Literal

open Registrar.Text

/-- The kinds of strings, which differ in their escapes and in the characters they may hold. -/
inductive StringKind
  | text | bytes | terminated
  deriving DecidableEq, Repr

/-- Reads the digits and the closing brace of an escape by code point. At most six digits count,
and underscores may follow the first one. -/
def codePointDigits (value count : Nat) : List Char → Option (Char × List Char)
  | [] => none
  | character :: rest =>
    match hexValue? character with
    | some digit =>
      if count = 6 then none else codePointDigits (16 * value + digit) (count + 1) rest
    | none =>
      if count = 0 then none
      else if character = '_' then codePointDigits value count rest
      else if character = '\x7d' ∧ value.isValidChar then some (Char.ofNat value, rest)
      else none

/-- Drops the layout after a line break that a backslash hides. -/
def afterHiddenBreak : List Char → List Char
  | ' ' :: rest => afterHiddenBreak rest
  | '\t' :: rest => afterHiddenBreak rest
  | '\n' :: rest => afterHiddenBreak rest
  | '\r' :: '\n' :: rest => afterHiddenBreak rest
  | rest => rest

/-- Reads what follows a backslash: the characters it denotes, none for a hidden line break. -/
def escape (kind : StringKind) : List Char → Option (List Char × List Char)
  | 'n' :: rest => some (['\n'], rest)
  | 'r' :: rest => some (['\r'], rest)
  | 't' :: rest => some (['\t'], rest)
  | '\\' :: rest => some (['\\'], rest)
  | '\'' :: rest => some (['\''], rest)
  | '"' :: rest => some (['"'], rest)
  | '0' :: rest => if kind = .terminated then none else some (['\x00'], rest)
  | 'x' :: high :: low :: rest => do
    let value := 16 * (← hexValue? high) + (← hexValue? low)
    if (kind = .text ∧ 0x80 ≤ value) ∨ (kind = .terminated ∧ value = 0) then none
    else some ([Char.ofNat value], rest)
  | 'u' :: '\x7b' :: rest => do
    let (character, rest) ← codePointDigits 0 0 rest
    if kind = .bytes ∨ (kind = .terminated ∧ character = '\x00') then none
    else some ([character], rest)
  | '\n' :: rest => some ([], afterHiddenBreak rest)
  | '\r' :: '\n' :: rest => some ([], afterHiddenBreak rest)
  | _ => none

/-- Reads one character or escape of a string body. A carriage return stands before a line feed
only, and the two denote a line feed. -/
def stringUnit (kind : StringKind) (character : Char) (rest : List Char) :
    Option (List Char × List Char) :=
  if character = '\\' then escape kind rest
  else if character = '\r' then
    match rest with
    | '\n' :: rest => some (['\n'], rest)
    | _ => none
  else if kind = .bytes ∧ 0x80 ≤ character.toNat then none
  else if kind = .terminated ∧ character = '\x00' then none
  else some ([character], rest)

theorem afterHiddenBreak_length_le (text : List Char) :
    (afterHiddenBreak text).length ≤ text.length := by
  fun_induction afterHiddenBreak text <;> grind

theorem codePointDigits_length_le {value count : Nat} {text rest : List Char} {character : Char}
    (read : codePointDigits value count text = some (character, rest)) :
    rest.length ≤ text.length := by
  fun_induction codePointDigits value count text <;> grind

theorem escape_length_le {kind : StringKind} {text denoted rest : List Char}
    (read : escape kind text = some (denoted, rest)) : rest.length ≤ text.length := by
  unfold escape at read
  split at read
  case h_8 =>
    simp only [Option.bind_eq_bind, Option.bind_eq_some_iff] at read
    rcases read with ⟨_, _, _, _, read⟩
    grind
  case h_9 =>
    simp only [Option.bind_eq_bind, Option.bind_eq_some_iff] at read
    rcases read with ⟨⟨character, after⟩, digits, read⟩
    have := codePointDigits_length_le digits
    grind
  case h_10 tail => have := afterHiddenBreak_length_le tail; grind
  case h_11 tail => have := afterHiddenBreak_length_le tail; grind
  all_goals grind

theorem stringUnit_length_le {kind : StringKind} {character : Char} {text denoted rest : List Char}
    (read : stringUnit kind character text = some (denoted, rest)) :
    rest.length ≤ text.length := by
  unfold stringUnit at read
  have := @escape_length_le kind text denoted rest
  grind

/-- Reads a string body up to its closing quote: the text it denotes and what follows the quote. -/
def stringBody (kind : StringKind) (text : List Char) : Option (List Char × List Char) :=
  match text with
  | [] => none
  | character :: tail =>
    if character = '"' then some ([], tail)
    else
      match _read : stringUnit kind character tail with
      | none => none
      | some (denoted, rest) =>
        match stringBody kind rest with
        | none => none
        | some (others, after) => some (denoted ++ others, after)
  termination_by text.length
  decreasing_by
    have := stringUnit_length_le _read
    simp; omega

/-- Whether a character may stand in a raw string of the kind. -/
def rawAllowed : StringKind → Char → Bool
  | .text, _ => true
  | .bytes, character => character.toNat < 0x80
  | .terminated, character => character != '\x00'

/-- Reads a raw string body up to a quote that the hash marks follow. -/
def rawBody (kind : StringKind) (hashes : List Char) : List Char → Option (List Char × List Char)
  | [] => none
  | '\r' :: '\n' :: rest =>
    (rawBody kind hashes rest).map fun (content, after) => ('\r' :: '\n' :: content, after)
  | '\r' :: _ => none
  | character :: rest =>
    if character = '"' ∧ hashes.isPrefixOf rest then some ([], rest.drop hashes.length)
    else if rawAllowed kind character then
      (rawBody kind hashes rest).map fun (content, after) => (character :: content, after)
    else none

/-- Reads the hash marks, the quote and the body of a raw string. -/
def rawString (kind : StringKind) (text : List Char) : Option (List Char × List Char) :=
  let hashes := text.takeWhile (· = '#')
  match text.dropWhile (· = '#') with
  | '"' :: body => if 255 < hashes.length then none else rawBody kind hashes body
  | _ => none

/-- What follows the identifier at the start of a text, if there is one. -/
def afterIdentifier? : List Char → Option (List Char)
  | [] => none
  | character :: rest =>
    if isIdentifierStart character then some (rest.dropWhile isIdentifierContinue) else none

/-- What follows the suffix of a literal, if it has one. -/
def afterSuffix (text : List Char) : List Char :=
  (afterIdentifier? text).getD text

/-- What follows a string literal of any kind. -/
def afterString? : List Char → Option (List Char)
  | '"' :: rest => (stringBody .text rest).map fun read => afterSuffix read.2
  | 'r' :: rest => (rawString .text rest).map fun read => afterSuffix read.2
  | 'b' :: '"' :: rest => (stringBody .bytes rest).map fun read => afterSuffix read.2
  | 'b' :: 'r' :: rest => (rawString .bytes rest).map fun read => afterSuffix read.2
  | 'c' :: '"' :: rest => (stringBody .terminated rest).map fun read => afterSuffix read.2
  | 'c' :: 'r' :: rest => (rawString .terminated rest).map fun read => afterSuffix read.2
  | _ => none

/-- Reads the inside of a character literal, one character or escape. -/
def characterUnit (kind : StringKind) : List Char → Option (List Char)
  | [] => none
  | ['\\'] => none
  | '\\' :: next :: rest =>
    if next = '\n' ∨ next = '\r' then none else (escape kind (next :: rest)).map (·.2)
  | character :: rest => if kind = .bytes ∧ 0x80 ≤ character.toNat then none else some rest

/-- What follows a character or byte literal. -/
def afterCharacter? : List Char → Option (List Char)
  | 'b' :: '\'' :: inside =>
    match characterUnit .bytes inside with
    | some ('\'' :: rest) => some (afterSuffix rest)
    | _ => none
  | '\'' :: inside =>
    match characterUnit .text inside with
    | some ('\'' :: rest) => some (afterSuffix rest)
    | _ => none
  | _ => none

/-- Reads the sign and the digits of an exponent, of which there has to be one. -/
def exponentDigits (signed valued : Bool) : List Char → Option (List Char)
  | [] => if valued then some [] else none
  | character :: rest =>
    if character = '+' ∨ character = '-' then
      if valued then some (character :: rest)
      else if signed then none
      else exponentDigits true valued rest
    else if character.isDigit then exponentDigits signed true rest
    else if character = '_' then exponentDigits signed valued rest
    else if valued then some (character :: rest) else none

/-- What follows a number with a fraction or an exponent, without its suffix. A point belongs to
the number unless another point or an identifier follows it. -/
def afterFraction? : List Char → Option (List Char)
  | [] => none
  | first :: tail =>
    if !first.isDigit then none
    else
      let inNumber := fun character => character.isDigit || character == '_'
      match tail.dropWhile inNumber with
      | '.' :: rest =>
        let stops := match rest with
          | [] => false
          | next :: _ => next == '.' || isIdentifierStart next
        if stops then none
        else
          match rest.dropWhile inNumber with
          | [] => some []
          | next :: exponent =>
            if next = 'e' ∨ next = 'E' then
              some ((exponentDigits false false exponent).getD (next :: exponent))
            else some (next :: exponent)
      | next :: exponent =>
        if next = 'e' ∨ next = 'E' then exponentDigits false false exponent else none
      | [] => none

/-- Reads the digits of an integer, of which there has to be one. -/
def integerDigits (base : Nat) (empty : Bool) : List Char → Option (List Char)
  | [] => if empty then none else some []
  | character :: rest =>
    if character = '_' then
      if empty && base == 10 then none else integerDigits base empty rest
    else
      match hexValue? character with
      | some digit =>
        if digit < base then integerDigits base false rest
        else if character.isDigit then none
        else if empty then none else some (character :: rest)
      | none => if empty then none else some (character :: rest)

/-- What follows an integer, without its suffix. -/
def afterInteger? : List Char → Option (List Char)
  | '0' :: 'x' :: rest => integerDigits 16 true rest
  | '0' :: 'o' :: rest => integerDigits 8 true rest
  | '0' :: 'b' :: rest => integerDigits 2 true rest
  | text => integerDigits 10 true text

/-- A number ends where no identifier character follows its suffix. -/
def numberEnd? (text : List Char) : Option (List Char) :=
  let rest := afterSuffix text
  match rest with
  | [] => some rest
  | character :: _ => if isIdentifierContinue character then none else some rest

/-- What follows the literal at the start of a text. -/
def after? (text : List Char) : Option (List Char) :=
  afterString? text <|> afterCharacter? text <|> (afterFraction? text).bind numberEnd? <|>
    (afterInteger? text).bind numberEnd?

/-- The text that a string literal denotes; nothing for literals of other kinds. -/
def stringValue? (spelling : List Char) : Option (List Char) :=
  match spelling with
  | '"' :: body => (stringBody .text body).map (·.1)
  | 'r' :: body => (rawString .text body).map (·.1)
  | _ => none

/-- The value of a spelling as an integer without a suffix. -/
def plainInteger? (spelling : List Char) : Option Nat :=
  let (base, digits) := match spelling with
    | '0' :: 'x' :: rest => (16, rest)
    | '0' :: 'o' :: rest => (8, rest)
    | '0' :: 'b' :: rest => (2, rest)
    | digits => (10, digits)
  let digits := digits.filter (· ≠ '_')
  if digits.isEmpty then none
  else digits.foldlM (fun value character => do
    let digit ← hexValue? character
    if digit < base then some (base * value + digit) else none) 0

/-- Whether the spelling of a number is that of one with a fraction or an exponent. -/
def isFractional (spelling : List Char) : Bool :=
  match spelling with
  | '0' :: 'x' :: _ => false
  | '0' :: 'o' :: _ => false
  | '0' :: 'b' :: _ => false
  | _ =>
    match spelling.dropWhile fun character => character.isDigit || character == '_' with
    | '.' :: _ => true
    | character :: rest =>
      (character == 'e' || character == 'E') &&
        match rest.filter (· ≠ '_') with
        | '+' :: _ => true
        | '-' :: _ => true
        | next :: _ => next.isDigit
        | [] => false
    | [] => false

end Registrar.Source.Literal
