/-!
# JSON text

Values with ordered fields are written as JSON, either on one line or with one item a line.
-/

namespace Registrar

/-- A value that is written as JSON. The fields of an object keep their order. -/
inductive JsonValue
  | null
  | number (value : Nat)
  | text (value : String)
  | list (items : List JsonValue)
  | object (fields : List (String × JsonValue))
  deriving Repr

namespace JsonValue

/-- A text, or null where there is none. -/
def optionalText (value : Option String) : JsonValue :=
  match value with
  | some value => text value
  | none => null

/-- The two lowest hexadecimal digits of a number. -/
def hexPair (number : Nat) : List Char :=
  [Nat.digitChar (number / 16 % 16), Nat.digitChar (number % 16)]

/-- The written form of one character of a text. -/
def escapeCharacter (character : Char) : List Char :=
  if character = '"' then ['\\', '"']
  else if character = '\\' then ['\\', '\\']
  else if character = '\n' then ['\\', 'n']
  else if character = '\r' then ['\\', 'r']
  else if character = '\t' then ['\\', 't']
  else if character = '\x08' then ['\\', 'b']
  else if character = '\x0c' then ['\\', 'f']
  else if character.toNat < 0x20 then ['\\', 'u', '0', '0'] ++ hexPair character.toNat
  else [character]

/-- A text between quotes, with escapes for what may not stand there. -/
def quotedText (value : String) : List Char :=
  '"' :: value.toList.flatMap escapeCharacter ++ ['"']

/-- Pieces of text with commas between them. -/
def separated (separator : List Char) : List (List Char) → List Char
  | [] => []
  | [last] => last
  | first :: others => first ++ separator ++ separated separator others

mutual

/-- A value on one line. -/
def compact : JsonValue → List Char
  | null => "null".toList
  | number value => Nat.toDigits 10 value
  | text value => quotedText value
  | list items => '[' :: separated [','] (compactItems items) ++ [']']
  | object fields => '\x7b' :: separated [','] (compactFields fields) ++ ['\x7d']

/-- The items of a list, each on one line. -/
def compactItems : List JsonValue → List (List Char)
  | [] => []
  | item :: others => compact item :: compactItems others

/-- The fields of an object, each on one line. -/
def compactFields : List (String × JsonValue) → List (List Char)
  | [] => []
  | (name, value) :: others => (quotedText name ++ ':' :: compact value) :: compactFields others

end

/-- A line break and two spaces for each level. -/
def lineStart (depth : Nat) : List Char := '\n' :: List.replicate (2 * depth) ' '

/-- Parts between brackets, each part on lines of its own; no parts take no lines. -/
def bracketed (opening closing : Char) (depth : Nat) (parts : List (List Char)) : List Char :=
  if parts.isEmpty then [opening, closing]
  else opening :: lineStart (depth + 1) ++ separated (',' :: lineStart (depth + 1)) parts ++
    lineStart depth ++ [closing]

mutual

/-- A value with one item a line, at a depth. -/
def indentedAt (depth : Nat) : JsonValue → List Char
  | list items => bracketed '[' ']' depth (indentedItems (depth + 1) items)
  | object fields => bracketed '\x7b' '\x7d' depth (indentedFields (depth + 1) fields)
  | null => compact null
  | number value => compact (number value)
  | text value => compact (text value)

/-- The items of a list, each written with the given indentation. -/
def indentedItems (depth : Nat) : List JsonValue → List (List Char)
  | [] => []
  | item :: others => indentedAt depth item :: indentedItems depth others

/-- The fields of an object, each written with the given indentation. -/
def indentedFields (depth : Nat) : List (String × JsonValue) → List (List Char)
  | [] => []
  | (name, value) :: others =>
    (quotedText name ++ ':' :: ' ' :: indentedAt depth value) :: indentedFields depth others

end

/-- A value with one item a line. -/
def indented (value : JsonValue) : List Char := indentedAt 0 value

end JsonValue

end Registrar
