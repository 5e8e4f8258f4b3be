import Registrar.Document
import Registrar.Document.Yaml.Layout

/-!
# Documents in YAML

A text holds one document at most. A plain scalar is a text whatever it looks like, unless it
stands for nothing; a tag may say that it does not. An alias stands for what its anchor marks.
-/

namespace Registrar.Yaml

/-- A name for a document, which is not known while it is still being read. -/
structure Anchor where
  name : List Char
  target : Option Document

/-- What is known while tokens are read. -/
structure Progress where
  tokens : List Token
  /-- The anchors so far, the latest first. -/
  anchors : List Anchor
  handles : List (TagHandle × List Char)

/-- Reads tokens, from the first one on, and keeps what it has learnt on the way. -/
abbrev TokenReader := StateT Progress Option

namespace TokenReader

/-- The next token, if there is one. -/
def peek : TokenReader (Option Token) := do return (← get).tokens.head?

/-- Leaves the next token out. -/
def skip : TokenReader Unit :=
  modify fun progress => { progress with tokens := progress.tokens.drop 1 }

/-- Whether the next token is one of the given ones. -/
def isNext (tokens : List Token) : TokenReader Bool := do
  return (← peek).any tokens.contains

/-- Leaves the next token out if it is the given one, and tells whether it was. -/
def takes (token : Token) : TokenReader Bool := do
  if ← isNext [token] then
    skip
    return true
  else return false

/-- Leaves out the next token, which has to be the given one. -/
def expect (token : Token) : TokenReader Unit := do
  if ← takes token then return () else failure

/-- Notes an anchor, and tells how many there were before it. -/
def openAnchor (name : List Char) : TokenReader Nat := do
  let progress ← get
  set { progress with anchors := ⟨name, none⟩ :: progress.anchors }
  return progress.anchors.length

/-- Gives a document to the anchor before which there was the given number of others. -/
def closeAnchor (count : Nat) (document : Document) : TokenReader Unit :=
  modify fun progress =>
    let index := progress.anchors.length - 1 - count
    { progress with
      anchors := progress.anchors.modify index fun anchor =>
        { anchor with target := some document } }

/-- What an alias stands for. One that stands within what its anchor marks has no value of its
own. -/
def resolve (name : List Char) : TokenReader Document := do
  match (← get).anchors.find? fun anchor => anchor.name = name with
  | none => failure
  | some anchor => return anchor.target.getD .other

/-- The tag that is meant by its written name. -/
def meaning (name : TagName) : TokenReader (List Char) := do
  match name.handle with
  | none => return name.suffix
  | some handle =>
    match (← get).handles.lookup handle with
    | some start => return start ++ name.suffix
    | none => failure

end TokenReader

/-- The tag of what is nothing. -/
def nullTag : List Char := "tag:yaml.org,2002:null".toList

/-- The tag that says no more than that a scalar is a text. -/
def openTag : List Char := ['!']

/-- Whether a plain scalar stands for nothing. -/
def isNull (text : String) : Bool := ["~", "null", "Null", "NULL"].contains text

/-- The document that a scalar without quotes is, by its tag. -/
def plainDocument (tag : Option (List Char)) (text : String) : Document :=
  match tag with
  | none => if text.isEmpty then .void else if isNull text then .null (some text) else .text text
  | some tag =>
    if tag = nullTag then if isNull text then .null (some text) else .other
    else if text.isEmpty then .blank
    else .text text

/-- The document that a scalar is, with or without quotes. -/
def scalarDocument (tag : Option (List Char)) (isPlain : Bool) (text : List Char) : Document :=
  if isPlain then plainDocument (tag.filter (· ≠ openTag)) (String.ofList text)
  else .text (String.ofList text)

/-- The anchor and the tag before a node, in either order. -/
structure Properties where
  anchor : Option (List Char)
  tag : Option TagName

open TokenReader

/-- Reads the anchor and the tag in front of a node, in either order. -/
def properties : TokenReader Properties := do
  match ← peek with
  | some (.anchor name) =>
    skip
    match ← peek with
    | some (.tag tag) =>
      skip
      return ⟨some name, some tag⟩
    | _ => return ⟨some name, none⟩
  | some (.tag tag) =>
    skip
    match ← peek with
    | some (.anchor name) =>
      skip
      return ⟨some name, some tag⟩
    | _ => return ⟨none, some tag⟩
  | _ => return ⟨none, none⟩

/-- Reads a document and lets an anchor in front of it, if there is one, stand for it. -/
def anchored (anchor : Option (List Char)) (read : TokenReader Document) : TokenReader Document :=
  match anchor with
  | none => read
  | some name => do
    let count ← openAnchor name
    let document ← read
    closeAnchor count document
    return document

/-- The key of an entry, which is missing where it is no text. -/
def entryOf (key value : Document) : Option String × Document := (key.text?, value)

mutual

/-- A node, within a number of steps. A list in a table may stand at the column of the table. -/
def node : Nat → (isBlock allowsUnindented : Bool) → TokenReader Document
  | 0, _, _ => failure
  | steps + 1, isBlock, allowsUnindented => do
    match ← peek with
    | some (.reference name) =>
      skip
      resolve name
    | _ =>
      let found ← properties
      let tag ← found.tag.mapM meaning
      anchored found.anchor (content steps isBlock allowsUnindented found tag)

/-- What stands behind the properties of a node. -/
def content : Nat → (isBlock allowsUnindented : Bool) → Properties → Option (List Char) →
    TokenReader Document
  | 0, _, _, _, _ => failure
  | steps + 1, isBlock, allowsUnindented, found, tag => do
    match ← peek with
    | some (.scalar isPlain text) =>
      skip
      return scalarDocument tag isPlain text
    | some .flowSequenceStart =>
      skip
      return .list (← flowItems steps true)
    | some .flowMappingStart =>
      skip
      return .table (← flowEntries steps true)
    | next =>
      if allowsUnindented && next == some .blockEntry then return .list (← unindentedItems steps)
      else if isBlock && next == some .blockSequenceStart then
        skip
        return .list (← blockItems steps)
      else if isBlock && next == some .blockMappingStart then
        skip
        return .table (← blockEntries steps)
      else if found.anchor.isSome || found.tag.isSome then return plainDocument tag ""
      else failure

/-- A node, or nothing where one of the given tokens or the end is next. -/
def nodeUnless : Nat → List Token → (isBlock allowsUnindented : Bool) → TokenReader Document
  | 0, _, _, _ => failure
  | steps + 1, ends, isBlock, allowsUnindented => do
    if ← isNext ends then return .void else node steps isBlock allowsUnindented

/-- The items of a list up to its end. -/
def blockItems : Nat → TokenReader (List Document)
  | 0 => failure
  | steps + 1 => do
    if ← takes .blockEntry then
      let item ← nodeUnless steps [.blockEntry, .blockEnd] true false
      return item :: (← blockItems steps)
    else
      expect .blockEnd
      return []

/-- The items of a list at the column of the table that holds it. -/
def unindentedItems : Nat → TokenReader (List Document)
  | 0 => failure
  | steps + 1 => do
    if ← takes .blockEntry then
      let item ← nodeUnless steps [.blockEntry, .key, .value, .blockEnd] true false
      return item :: (← unindentedItems steps)
    else return []

/-- The value of an entry, if a colon is next. -/
def valueIfAny : Nat → List Token → (isBlock : Bool) → TokenReader Document
  | 0, _, _ => failure
  | steps + 1, ends, isBlock => do
    if ← takes .value then nodeUnless steps ends isBlock isBlock else return .void

/-- The entries of a table up to its end. -/
def blockEntries : Nat → TokenReader (List (Option String × Document))
  | 0 => failure
  | steps + 1 => do
    if ← takes .key then
      let key ← nodeUnless steps [.key, .value, .blockEnd] true true
      let value ← valueIfAny steps [.key, .value, .blockEnd] true
      return entryOf key value :: (← blockEntries steps)
    else
      expect .blockEnd
      return []

/-- The items of a list in brackets up to its end. -/
def flowItems : Nat → (isFirst : Bool) → TokenReader (List Document)
  | 0, _ => failure
  | steps + 1, isFirst => do
    if ← takes .flowSequenceEnd then return []
    else
      if !isFirst then expect .flowEntry
      if ← takes .flowSequenceEnd then return []
      else if ← takes .key then
        let entry ← singleEntry steps
        return .table [entry] :: (← flowItems steps false)
      else
        let item ← node steps false false
        return item :: (← flowItems steps false)

/-- The entry of a table that is an item of a list in brackets. Where the key is missing the token
behind it is left out. -/
def singleEntry : Nat → TokenReader (Option String × Document)
  | 0 => failure
  | steps + 1 => do
    let ends : List Token := [.flowEntry, .flowSequenceEnd]
    let key ← do
      if ← isNext (.value :: ends) then
        skip
        pure Document.void
      else node steps false false
    return entryOf key (← valueIfAny steps ends false)

/-- The entries of a table in brackets up to its end. -/
def flowEntries : Nat → (isFirst : Bool) → TokenReader (List (Option String × Document))
  | 0, _ => failure
  | steps + 1, isFirst => do
    if ← takes .flowMappingEnd then return []
    else
      if !isFirst then expect .flowEntry
      if ← takes .flowMappingEnd then return []
      else if ← takes .key then
        let ends : List Token := [.flowEntry, .flowMappingEnd]
        let key ← nodeUnless steps (.value :: ends) false false
        let value ← valueIfAny steps ends false
        return entryOf key value :: (← flowEntries steps false)
      else
        let key ← node steps false false
        return entryOf key .void :: (← flowEntries steps false)

end

/-- The handles of tags that need no directive. -/
def standardHandles : List (TagHandle × List Char) :=
  [(primaryHandle, ['!']), (⟨['!', '!']⟩, "tag:yaml.org,2002:".toList)]

/-- Whether a document may ask for a version. -/
def isKnownVersion (major minor : Nat) : Bool := major = 1 && (minor = 1 || minor = 2)

/-- The directives of a document and what follows them, where some were read. Neither a version nor
a handle may be told twice. -/
def directives (hasVersion : Bool) (handles : List (TagHandle × List Char)) :
    List Token → Option (List (TagHandle × List Char) × List Token)
  | .versionDirective major minor :: rest =>
    if hasVersion || !isKnownVersion major minor then none else directives true handles rest
  | .tagDirective handle meaning :: rest =>
    if (handles.lookup handle).isSome then none
    else directives hasVersion (handles ++ [(handle, meaning)]) rest
  | rest => some (handles, rest)

/-- The tokens between directives and the content of a document. A marker has to follow
directives. -/
def afterMarker? (hasDirectives : Bool) : List Token → Option (List Token)
  | .documentStart :: rest => some rest
  | rest => if hasDirectives then none else some rest

/-- Whether a token cannot belong to the document before it. -/
def endsDocument : Token → Bool
  | .versionDirective _ _ | .tagDirective _ _ | .documentStart | .documentEnd => true
  | _ => false

/-- The document at the start of tokens, of which none may follow it but markers of its end. -/
def readDocument? (handles : List (TagHandle × List Char)) (isMarked : Bool)
    (tokens : List Token) : Option Document := do
  let isVoid := isMarked && (tokens.head?.all endsDocument)
  let (document, progress) ←
    if isVoid then some (.void, ⟨tokens, [], handles⟩)
    else (node (4 * tokens.length + 4) true false).run ⟨tokens, [], handles⟩
  if progress.tokens.all (· == .documentEnd) then some document else none

/-- The document of a text. -/
def read? (text : List Char) : Option Document := do
  let tokens ← tokens? text
  if tokens.isEmpty then return .void
  else
    let (handles, rest) ← directives false [] tokens
    let content ← afterMarker? (rest.length ≠ tokens.length) rest
    readDocument? (handles ++ standardHandles) (content.length ≠ rest.length) content

end Registrar.Yaml
