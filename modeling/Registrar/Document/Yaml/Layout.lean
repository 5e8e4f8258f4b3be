import Registrar.Document.Yaml.Token

/-!
# The layout of a YAML text

The tokens of a text follow from its indentation: a line that is indented further than the ones
around it opens a block, and one that is indented less closes blocks. That something was a key is
known only at the colon behind it, on the same line, so the place of each possible key is kept.
-/

namespace Registrar.Yaml

/-- A place where a key may have begun. -/
structure KeyStart where
  /-- The number of tokens before it. -/
  tokenCount : Nat
  place : Placed
  /-- Whether nothing else may stand there. -/
  isRequired : Bool

/-- What is known after some tokens. -/
structure Layout where
  tokens : List Token
  /-- The columns of the open blocks, the innermost first. -/
  columns : List Nat
  /-- The possible key outside brackets and within each open bracket, the innermost first. -/
  keyStarts : List (Option KeyStart)
  /-- Whether a key may start next. -/
  allowsKey : Bool

namespace Layout

/-- Nothing was read. -/
def start : Layout := ⟨[], [], [none], true⟩

/-- The column of the innermost block, or the one before the first. -/
def column (layout : Layout) : Int :=
  match layout.columns with
  | [] => -1
  | column :: _ => column

/-- Whether brackets are open. -/
def isFlow (layout : Layout) : Bool := 1 < layout.keyStarts.length

/-- The layout with a token at its end. -/
def push (layout : Layout) (token : Token) : Layout :=
  { layout with tokens := layout.tokens ++ [token] }

/-- The layout with a token after the given number of tokens. -/
def insert (layout : Layout) (count : Nat) (token : Token) : Layout :=
  { layout with tokens := layout.tokens.take count ++ token :: layout.tokens.drop count }

/-- Ends the blocks that begin to the right of a column. -/
def closeBlocks (layout : Layout) (column : Int) : Layout :=
  if layout.isFlow then layout
  else
    let closed := (layout.columns.takeWhile fun start => column < Int.ofNat start).length
    { layout with
      tokens := layout.tokens ++ List.replicate closed .blockEnd
      columns := layout.columns.drop closed }

/-- Opens a block at a column after the given number of tokens, if it starts after the others. -/
def openBlock (layout : Layout) (column count : Nat) (token : Token) : Layout :=
  if !layout.isFlow && layout.column < Int.ofNat column then
    { layout.insert count token with columns := column :: layout.columns }
  else layout

/-- Whether a possible key can no longer be one at a place. -/
def isStale (place : Placed) (start : KeyStart) : Bool :=
  start.place.line < place.line || start.place.index + 1024 < place.index

/-- Gives up the possible keys that can no longer be ones. None of them may be required. -/
def dropStale (layout : Layout) (place : Placed) : Option Layout :=
  let stale := layout.keyStarts.filterMap fun start => start.filter (isStale place)
  if stale.any KeyStart.isRequired then none
  else some { layout with
    keyStarts := layout.keyStarts.map fun start => start.filter fun start => !isStale place start }

/-- Gives up the innermost possible key, which may not be required. -/
def dropKey (layout : Layout) : Option Layout :=
  match layout.keyStarts with
  | [] => some layout
  | start :: others =>
    if start.any KeyStart.isRequired then none
    else some { layout with keyStarts := none :: others }

/-- Notes that a key may start at a place, if one may. -/
def noteKey (layout : Layout) (place : Placed) : Option Layout :=
  if !layout.allowsKey then some layout
  else do
    let layout ← layout.dropKey
    let isRequired := !layout.isFlow && layout.column == Int.ofNat place.column
    return { layout with
      keyStarts := some ⟨layout.tokens.length, place, isRequired⟩ :: layout.keyStarts.drop 1 }

/-- The layout in which a key may start next, or may not. -/
def allowKey (layout : Layout) (allowsKey : Bool) : Layout := { layout with allowsKey }

/-- A document marker or a directive closes all blocks. -/
def endDocument (layout : Layout) : Option Layout :=
  ((layout.closeBlocks (-1)).dropKey).map fun layout => layout.allowKey false

/-- Reads a bracket that opens a flow. -/
def openBracket (layout : Layout) (place : Placed) (token : Token) : Option Layout :=
  (layout.noteKey place).map fun layout =>
    { (layout.push token).allowKey true with keyStarts := none :: layout.keyStarts }

/-- Reads a bracket that closes a flow. -/
def closeBracket (layout : Layout) (token : Token) : Option Layout :=
  layout.dropKey.map fun layout =>
    { (layout.push token).allowKey false with
      keyStarts := if layout.isFlow then layout.keyStarts.drop 1 else layout.keyStarts }

/-- An indicator that starts something at a place: an entry of a list, or a key. -/
def startEntry (layout : Layout) (place : Placed) (opening token : Token) : Option Layout :=
  if !layout.isFlow && !layout.allowsKey then none
  else
    (layout.openBlock place.column layout.tokens.length opening).dropKey.map fun layout =>
      layout.push token

/-- Reads the mark of an item in a block. -/
def readBlockEntry (layout : Layout) (place : Placed) : Option Layout :=
  (layout.startEntry place .blockSequenceStart .blockEntry).map fun layout => layout.allowKey true

/-- Reads the mark in front of a key. -/
def readKey (layout : Layout) (place : Placed) : Option Layout :=
  (layout.startEntry place .blockMappingStart .key).map fun layout =>
    layout.allowKey (!layout.isFlow)

/-- The colon of a value. The possible key before it is one. -/
def readValue (layout : Layout) (place : Placed) : Option Layout :=
  match layout.keyStarts.head?.join with
  | some start =>
    let keyed := (layout.insert start.tokenCount .key).openBlock start.place.column
      start.tokenCount .blockMappingStart
    some ({ keyed with keyStarts := none :: keyed.keyStarts.drop 1 }.push .value |>.allowKey false)
  | none =>
    if layout.isFlow then some ((layout.push .value).allowKey false)
    else if !layout.allowsKey then none
    else some (((layout.openBlock place.column layout.tokens.length .blockMappingStart).push
      .value).allowKey true)

/-- Adds a token with which a key may begin. -/
def pushKeyPart (layout : Layout) (place : Placed) (token : Token) : Option Layout :=
  (layout.noteKey place).map fun layout => (layout.push token).allowKey false

/-- A plain scalar. A key may start on the line after it. -/
def readPlain (layout : Layout) (place : Placed) (text : List Placed) :
    Option (Layout × List Placed) := do
  let scalar ← plainScalar? layout.isFlow (layout.column + 1) text
  let layout ← layout.pushKeyPart place (.scalar true scalar.text)
  return (layout.allowKey scalar.endsLine, scalar.rest)

/-- Reads a scalar between quotes, after the first quote. -/
def readQuoted (layout : Layout) (place : Placed) (text : List Placed) :
    Option (Layout × List Placed) := do
  let (content, rest) ← quotedScalar? place.character text
  return (← layout.pushKeyPart place (.scalar false content), rest)

/-- Reads a scalar that is a block, after its mark. -/
def readBlockScalar (layout : Layout) (isFolded : Bool) (text : List Placed) :
    Option (Layout × List Placed) := do
  let layout ← layout.dropKey
  let (content, rest) ← blockScalar? isFolded layout.column text
  return ((layout.push (.scalar false content)).allowKey true, rest)

/-- Reads a tag. -/
def readTag (layout : Layout) (place : Placed) (text : List Placed) :
    Option (Layout × List Placed) := do
  let (name, rest) ← tagName? layout.isFlow text
  return (← layout.pushKeyPart place (.tag name), rest)

/-- Reads an anchor or a reference to one, after its mark. -/
def readAnchor (layout : Layout) (place : Placed) (token : List Char → Token)
    (text : List Placed) : Option (Layout × List Placed) := do
  let (name, rest) ← anchorName? text
  return (← layout.pushKeyPart place (token name), rest)

/-- Reads a directive, which ends what came before it. -/
def readDirective (layout : Layout) (text : List Placed) : Option (Layout × List Placed) := do
  let layout ← layout.endDocument
  let (token, rest) ← directive? text
  return (layout.push token, rest)

/-- The characters with which no plain scalar starts. -/
def indicators : List Char :=
  ['-', '?', ':', ',', '[', ']', '\x7b', '\x7d', '#', '&', '*', '!', '|', '>', '\'', '"', '%', '@',
    '`']

/-- Whether a plain scalar may start with a character that something follows. -/
def startsPlain (isFlow : Bool) (first : Placed) (rest : List Placed) : Bool :=
  !(first.isGap || indicators.contains first.character) ||
    (first.character = '-' && !rest.head?.any Placed.isBlank) ||
    (!isFlow && (first.character = '?' || first.character = ':') && !gapFollows rest)

/-- The next token, which starts with the given character. -/
def readToken (layout : Layout) (first : Placed) (rest : List Placed) :
    Option (Layout × List Placed) :=
  let text := first :: rest
  let readsIndicator := layout.isFlow || gapFollows rest
  let alone := fun (next : Option Layout) => next.map fun layout => (layout, rest)
  if first.column = 0 && first.character = '%' then layout.readDirective rest
  else if isMarker '-' text then
    layout.endDocument.map fun layout => (layout.push .documentStart, text.drop 3)
  else if isMarker '.' text then
    layout.endDocument.map fun layout => (layout.push .documentEnd, text.drop 3)
  else if first.character = '[' then alone (layout.openBracket first .flowSequenceStart)
  else if first.character = '\x7b' then alone (layout.openBracket first .flowMappingStart)
  else if first.character = ']' then alone (layout.closeBracket .flowSequenceEnd)
  else if first.character = '\x7d' then alone (layout.closeBracket .flowMappingEnd)
  else if first.character = ',' then
    alone (layout.dropKey.map fun layout => (layout.push .flowEntry).allowKey true)
  else if first.character = '-' && gapFollows rest then alone (layout.readBlockEntry first)
  else if first.character = '?' && readsIndicator then alone (layout.readKey first)
  else if first.character = ':' && readsIndicator then alone (layout.readValue first)
  else if first.character = '*' then layout.readAnchor first .reference rest
  else if first.character = '&' then layout.readAnchor first .anchor rest
  else if first.character = '!' then layout.readTag first text
  else if first.character = '|' && !layout.isFlow then layout.readBlockScalar false rest
  else if first.character = '>' && !layout.isFlow then layout.readBlockScalar true rest
  else if first.character = '\'' || first.character = '"' then layout.readQuoted first rest
  else if startsPlain layout.isFlow first rest then layout.readPlain first text
  else none

/-- Whether a character is left out before a token. Tabs are kept where a key may start. -/
def isPadding (layout : Layout) (placed : Placed) : Bool :=
  placed.character = ' ' || (placed.character = '\t' && (layout.isFlow || !layout.allowsKey))

/-- Drops blanks, comments and line breaks before the next token, within a number of lines. A key
may start on a new line outside brackets. -/
def toToken : Nat → Layout → List Placed → Layout × List Placed
  | 0, layout, text => (layout, text)
  | lines + 1, layout, text =>
    let rest := text.dropWhile layout.isPadding
    let rest := if startsWith '#' rest then afterLine rest else rest
    match rest with
    | [] => (layout, [])
    | first :: after =>
      if first.isBreak then
        toToken lines (if layout.isFlow then layout else layout.allowKey true) after
      else (layout, rest)

/-- The end of the text. No required key may be left. -/
def finish (layout : Layout) : Option (List Token) :=
  if layout.keyStarts.any fun start => start.any KeyStart.isRequired then none
  else some (layout.closeBlocks (-1)).tokens

/-- The tokens of a text, within a number of tokens. -/
def readAll : Nat → Layout → List Placed → Option (List Token)
  | 0, _, _ => none
  | count + 1, layout, text =>
    let (layout, rest) := toToken (text.length + 1) layout text
    match rest with
    | [] => layout.finish
    | first :: after => do
      let layout ← layout.dropStale first
      let (layout, rest) ← (layout.closeBlocks first.column).readToken first after
      readAll count layout rest

end Layout

/-- The tokens of a text. -/
def tokens? (text : List Char) : Option (List Token) := do
  let placed ← placed? text
  Layout.readAll (placed.length + 1) Layout.start placed

end Registrar.Yaml
