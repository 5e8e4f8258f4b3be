import Registrar.Document.Yaml.Scalar

/-!
# Tokens of YAML

The indicators, names and scalars of a text. Blocks of lines that are indented alike have tokens of
their own at their start and their end.
-/

namespace Registrar.Yaml

/-- The characters before the name of a tag, between exclamation marks. -/
structure TagHandle where
  text : List Char
  deriving DecidableEq, Repr

/-- A tag as it is written. One without a handle is meant as it stands. -/
structure TagName where
  handle : Option TagHandle
  suffix : List Char
  deriving DecidableEq, Repr

/-- What a text is made of, its layout included. -/
inductive Token
  | versionDirective (major minor : Nat)
  | tagDirective (handle : TagHandle) (meaning : List Char)
  | documentStart | documentEnd
  | blockSequenceStart | blockMappingStart | blockEnd
  | flowSequenceStart | flowSequenceEnd | flowMappingStart | flowMappingEnd
  | blockEntry | flowEntry | key | value
  | reference (name : List Char)
  | anchor (name : List Char)
  | tag (name : TagName)
  | scalar (isPlain : Bool) (text : List Char)
  deriving DecidableEq, Repr

/-! ## Names and tags -/

/-- The name at the start of a text, and what follows it. -/
def nameAhead (text : List Placed) : List Char × List Placed :=
  (characters (text.takeWhile fun placed => isNameCharacter placed.character),
    text.dropWhile fun placed => isNameCharacter placed.character)

/-- The characters that may stand behind the name of an anchor besides gaps. -/
def anchorEnds : List Char := ['?', ':', ',', ']', '\x7d', '%', '@', '`']

/-- Reads the name of an anchor, which a gap or a mark has to end. -/
def anchorName? (text : List Placed) : Option (List Char × List Placed) :=
  let (name, rest) := nameAhead text
  if name.isEmpty then none
  else if gapFollows rest || startsWithAny anchorEnds rest then some (name, rest)
  else none

/-- The characters that may stand in a tag, besides those of names and escapes. -/
def tagCharacters : List Char :=
  [';', '/', '?', ':', '@', '&', '=', '+', '$', '.', '!', '~', '*', '\'', '(', ')']

/-- The characters that may stand in a tag between angle brackets as well. -/
def verbatimCharacters : List Char := [',', '[', ']']

/-- The octet of an escape after its percent sign, and what follows it. -/
def octetAhead? : List Placed → Option (Nat × List Placed)
  | high :: low :: rest => do
    return (← Text.hexNumber? [high.character, low.character], rest)
  | _ => none

/-- The number of octets that follow a first one. -/
def octetsAfter? (first : Nat) : Option Nat :=
  if first < 0x80 then some 0
  else if 0xC0 ≤ first ∧ first < 0xE0 then some 1
  else if 0xE0 ≤ first ∧ first < 0xF0 then some 2
  else if 0xF0 ≤ first ∧ first < 0xF8 then some 3
  else none

/-- Octets that continue a character, each written as an escape, and what follows them. -/
def moreOctets? : Nat → List Placed → Option (List Nat × List Placed)
  | 0, rest => some ([], rest)
  | count + 1, rest =>
    match rest with
    | [] => none
    | first :: rest =>
      if first.character ≠ '%' then none
      else do
        let (octet, rest) ← octetAhead? rest
        if octet < 0x80 ∨ 0xC0 ≤ octet then none
        else
          let (octets, rest) ← moreOctets? count rest
          return (octet :: octets, rest)

/-- The character of an escape after its percent sign, and what follows it. Of a character that
takes several octets only the octets are told. -/
def percentEscape? (text : List Placed) : Option (List Char × List Placed) := do
  let (first, rest) ← octetAhead? text
  let (others, rest) ← moreOctets? (← octetsAfter? first) rest
  return ((first :: others).map Char.ofNat, rest)

/-- The characters of a tag, within a number of characters, and what follows them. -/
def tagText (isVerbatim : Bool) : Nat → List Placed → Option (List Char × List Placed)
  | 0, text => some ([], text)
  | _ + 1, [] => some ([], [])
  | steps + 1, first :: rest =>
    if first.character = '%' then do
      let (character, rest) ← percentEscape? rest
      let (others, rest) ← tagText isVerbatim steps rest
      return (character ++ others, rest)
    else if isNameCharacter first.character || tagCharacters.contains first.character ||
        (isVerbatim && verbatimCharacters.contains first.character) then
      (tagText isVerbatim steps rest).map fun (others, rest) => (first.character :: others, rest)
    else some ([], first :: rest)

/-- The handle at the start of a tag: names between exclamation marks. The second mark may be
missing. -/
def handleAhead? (text : List Placed) : Option (TagHandle × List Placed) :=
  match text with
  | [] => none
  | first :: rest =>
    if first.character ≠ '!' then none
    else
      let (name, rest) := nameAhead rest
      if startsWith '!' rest then some (⟨'!' :: name ++ ['!']⟩, rest.drop 1)
      else some (⟨'!' :: name⟩, rest)

/-- The handle of a single exclamation mark. -/
def primaryHandle : TagHandle := ⟨['!']⟩

/-- Whether a handle has an exclamation mark at its end besides the one at its start. -/
def TagHandle.isClosed (handle : TagHandle) : Bool :=
  1 < handle.text.length && handle.text.getLast? == some '!'

/-- A tag between angle brackets, and what follows it. -/
def verbatimTag? (text : List Placed) : Option (TagName × List Placed) := do
  let (suffix, rest) ← tagText true text.length text
  if suffix.isEmpty || !startsWith '>' rest then none else return (⟨none, suffix⟩, rest.drop 1)

/-- A tag that has a handle or only an exclamation mark, and what follows it. -/
def shortTag? (text : List Placed) : Option (TagName × List Placed) := do
  let (handle, rest) ← handleAhead? text
  let (suffix, rest) ← tagText false rest.length rest
  if handle.isClosed then
    if suffix.isEmpty then none else return (⟨some handle, suffix⟩, rest)
  else
    let suffix := handle.text.drop 1 ++ suffix
    if suffix.isEmpty then return (⟨none, ['!']⟩, rest)
    else return (⟨some primaryHandle, suffix⟩, rest)

/-- Reads the name of a tag, which a gap has to end, or a comma in a flow. -/
def tagName? (isFlow : Bool) (text : List Placed) : Option (TagName × List Placed) := do
  let (name, rest) ← if startsWith '<' (text.drop 1) then verbatimTag? (text.drop 2)
    else shortTag? text
  if gapFollows rest || (isFlow && startsWith ',' rest) then some (name, rest) else none

/-! ## Directives -/

/-- The decimal number at the start of a text, and what follows it. It has nine digits at most. -/
def versionNumber? (text : List Placed) : Option (Nat × List Placed) :=
  let digits := characters (text.takeWhile fun placed => placed.character.isDigit)
  if digits.isEmpty || 9 < digits.length then none
  else some (Nat.ofDigitChars 10 digits 0,
    text.dropWhile fun placed => placed.character.isDigit)

/-- The version after the name of its directive, and what follows it. -/
def versionDirective? (text : List Placed) : Option (Token × List Placed) := do
  let (major, rest) ← versionNumber? (afterBlanks text)
  if !startsWith '.' rest then none
  else
    let (minor, rest) ← versionNumber? (rest.drop 1)
    return (.versionDirective major minor, rest)

/-- The handle and its meaning after the name of the directive, and what follows them. -/
def tagDirective? (text : List Placed) : Option (Token × List Placed) := do
  let (handle, rest) ← handleAhead? (afterBlanks text)
  if handle ≠ primaryHandle && !handle.isClosed then none
  else if !rest.head?.any Placed.isBlank then none
  else
    let rest := afterBlanks rest
    let (meaning, rest) ← tagText true rest.length rest
    if meaning.isEmpty || !gapFollows rest then none
    else return (.tagDirective handle meaning, rest)

/-- A directive after its percent sign, and what follows its line. -/
def directive? (text : List Placed) : Option (Token × List Placed) := do
  let (name, rest) := nameAhead text
  if !gapFollows rest then none
  else
    let (token, rest) ← if name = "YAML".toList then versionDirective? rest
      else if name = "TAG".toList then tagDirective? rest
      else none
    return (token, ← afterLineEnd? rest)

end Registrar.Yaml
