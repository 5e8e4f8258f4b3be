import Registrar.Document.Yaml.Place
import Registrar.Text.Hexadecimal

/-!
# Scalars in YAML

A scalar is plain, between quotes, or a block of indented lines. Within the first two a single line
break is read as a space, and of several ones the first is left out.
-/

namespace Registrar.Yaml

/-- The breaks and blanks up to the next other character, of which only the breaks are kept. A tab
may not stand before the given column. -/
def breaksAhead (column : Int) : List Placed → Option (List Char × List Placed)
  | [] => some ([], [])
  | first :: rest =>
    if first.isBlank then
      if first.character = '\t' && first.column < column then none else breaksAhead column rest
    else if first.isBreak then
      (breaksAhead column rest).map fun (breaks, rest) => (first.character :: breaks, rest)
    else some ([], first :: rest)

/-- What stands between two words of a scalar. -/
structure Gap where
  blanks : List Char
  breaks : List Char

/-- How breaks are read: a single one as a space, and of several ones the first is left out. -/
def foldedBreaks : List Char → List Char
  | ['\n'] => [' ']
  | '\n' :: others => others
  | breaks => breaks

/-- What a gap within a scalar stands for. -/
def Gap.text (gap : Gap) : List Char :=
  if gap.breaks.isEmpty then gap.blanks else foldedBreaks gap.breaks

/-- The gap before the next word. A tab at the start of a line may not stand before the given
column. -/
def gapAhead (column : Int) (text : List Placed) : Option (Gap × List Placed) :=
  let blanks := characters (text.takeWhile Placed.isBlank)
  let rest := afterBlanks text
  if lineEnds rest then (breaksAhead column rest).map fun (breaks, rest) => (⟨blanks, breaks⟩, rest)
  else some (⟨blanks, []⟩, rest)

/-! ## Plain scalars -/

/-- The characters that end a plain scalar within brackets. -/
def flowIndicators : List Char := [',', '[', ']', '\x7b', '\x7d']

/-- A word of a plain scalar. Within brackets a colon may not stand before some characters. -/
def plainWord (isFlow : Bool) : List Placed → Option (List Char × List Placed)
  | [] => some ([], [])
  | first :: rest =>
    if first.isGap then some ([], first :: rest)
    else if isFlow && first.character = ':' && startsWithAny ('?' :: flowIndicators) rest then none
    else if first.character = ':' && gapFollows rest then some ([], first :: rest)
    else if isFlow && flowIndicators.contains first.character then some ([], first :: rest)
    else (plainWord isFlow rest).map fun (word, rest) => (first.character :: word, rest)

/-- A scalar without quotes, and what follows it. -/
structure PlainScalar where
  text : List Char
  /-- Whether a line break came between the last word and what follows. -/
  endsLine : Bool
  rest : List Placed

/-- Whether a scalar without quotes does not go on here. -/
def endsPlain (isFlow : Bool) (column : Int) (text : List Placed) : Bool :=
  isDocumentMarker text || startsWith '#' text ||
    (!isFlow && text.head?.any fun first => first.column < column)

/-- The words of a plain scalar whose lines start no earlier than at the given column, after a
gap, within a number of words. -/
def plainWords (isFlow : Bool) (column : Int) : Nat → Gap → List Placed → Option PlainScalar
  | 0, _, _ => none
  | words + 1, gap, text =>
    let stopped : PlainScalar := ⟨[], !gap.breaks.isEmpty, text⟩
    if endsPlain isFlow (if gap.breaks.isEmpty then 0 else column) text then some stopped
    else do
      let (word, rest) ← plainWord isFlow text
      if word.isEmpty then return stopped
      else if gapFollows rest && !rest.isEmpty then
        let (next, rest) ← gapAhead column rest
        let scalar ← plainWords isFlow column words next rest
        return { scalar with text := gap.text ++ word ++ scalar.text }
      else return ⟨gap.text ++ word, false, rest⟩

/-- A plain scalar whose further lines start no earlier than at the given column. -/
def plainScalar? (isFlow : Bool) (column : Int) (text : List Placed) : Option PlainScalar :=
  plainWords isFlow column (text.length + 1) ⟨[], []⟩ text

/-! ## Quoted scalars -/

/-- The character with the given number, if there is one. -/
def characterOf? (codePoint : Nat) : Option Char :=
  if h : codePoint.isValidChar then some (Char.ofNatAux codePoint h) else none

/-- The character that an escape without digits stands for. -/
def escaped? : Char → Option Char
  | '0' => some '\x00'
  | 'a' => some '\x07'
  | 'b' => some '\x08'
  | 't' => some '\t'
  | '\t' => some '\t'
  | 'n' => some '\n'
  | 'v' => some '\x0b'
  | 'f' => some '\x0c'
  | 'r' => some '\r'
  | 'e' => some '\x1b'
  | ' ' => some ' '
  | '"' => some '"'
  | '/' => some '/'
  | '\\' => some '\\'
  | 'N' => some '\u0085'
  | '_' => some '\u00a0'
  | 'L' => some '\u2028'
  | 'P' => some '\u2029'
  | _ => none

/-- The number of digits in an escape by number, by the character that marks it. -/
def escapeDigits? : Char → Option Nat
  | 'x' => some 2
  | 'u' => some 4
  | 'U' => some 8
  | _ => none

/-- The character of an escape after its backslash, and what follows it. -/
def escapeAhead? : List Placed → Option (Char × List Placed)
  | [] => none
  | letter :: rest =>
    match escapeDigits? letter.character with
    | some count =>
      let digits := characters (rest.take count)
      if digits.length < count then none
      else do return (← characterOf? (← Text.hexNumber? digits), rest.drop count)
    | none => (escaped? letter.character).map fun character => (character, rest)

/-- Where a run of characters between quotes ends. -/
inductive RunEnd
  /-- At a gap or the closing quote. -/
  | plain
  /-- At a line break that a backslash takes back. -/
  | joined
  deriving DecidableEq

/-- The characters between single quotes up to the next gap or the closing quote. -/
def singleQuotedRun : List Placed → List Char × List Placed
  | [] => ([], [])
  | first :: rest =>
    if first.isGap then ([], first :: rest)
    else if first.character = '\'' then
      match rest with
      | second :: others =>
        if second.character = '\'' then
          let (run, rest) := singleQuotedRun others
          ('\'' :: run, rest)
        else ([], first :: rest)
      | [] => ([], [first])
    else
      let (run, rest) := singleQuotedRun rest
      (first.character :: run, rest)

/-- The characters between double quotes up to the next gap or the closing quote, within a number
of characters. -/
def doubleQuotedRun : Nat → List Placed → Option (List Char × RunEnd × List Placed)
  | 0, text => some ([], .plain, text)
  | _ + 1, [] => some ([], .plain, [])
  | steps + 1, first :: rest =>
    if first.isGap || first.character = '"' then some ([], .plain, first :: rest)
    else if first.character = '\\' then
      if rest.head?.any Placed.isBreak then some ([], .joined, rest.drop 1)
      else do
        let (character, rest) ← escapeAhead? rest
        let (run, ending, rest) ← doubleQuotedRun steps rest
        return (character :: run, ending, rest)
    else do
      let (run, ending, rest) ← doubleQuotedRun steps rest
      return (first.character :: run, ending, rest)

/-- The characters between quotes up to the next gap or the closing quote. -/
def quotedRun? (quote : Char) (text : List Placed) : Option (List Char × RunEnd × List Placed) :=
  if quote = '"' then doubleQuotedRun text.length text
  else
    let (run, rest) := singleQuotedRun text
    some (run, .plain, rest)

/-- What the gap after a run stands for, and what follows it. -/
def gapAfterRun? (ending : RunEnd) (text : List Placed) : Option (List Char × List Placed) :=
  match ending with
  | .plain => (gapAhead 0 text).map fun (gap, rest) => (gap.text, rest)
  | .joined => breaksAhead 0 text

/-- A scalar after its opening quote, within a number of runs, and what follows its closing
quote. -/
def quotedRuns (quote : Char) : Nat → List Placed → Option (List Char × List Placed)
  | 0, _ => none
  | runs + 1, text =>
    if isDocumentMarker text then none
    else do
      let (run, ending, rest) ← quotedRun? quote text
      if startsWith quote rest then return (run, rest.drop 1)
      else if rest.isEmpty then none
      else
        let (gap, rest) ← gapAfterRun? ending rest
        let (others, rest) ← quotedRuns quote runs rest
        return (run ++ gap ++ others, rest)

/-- A scalar after its opening quote, and what follows its closing quote. -/
def quotedScalar? (quote : Char) (text : List Placed) : Option (List Char × List Placed) :=
  quotedRuns quote (text.length + 1) text

/-! ## Block scalars -/

/-- What is done with the line breaks at the end of a block scalar. -/
inductive Chomping
  | clip | strip | keep
  deriving DecidableEq, Repr

/-- The indicators of a block scalar: what is done with its last breaks, and by how many columns
it is indented, if that is told. -/
structure BlockHeader where
  chomping : Chomping
  increment : Option Nat

/-- What a sign says about the last breaks. -/
def chompingOf? : Char → Option Chomping
  | '+' => some .keep
  | '-' => some .strip
  | _ => none

/-- The increment that a digit tells, if it is a digit. It may not be zero. -/
def incrementOf? (digit : Char) : Option Nat :=
  if '1' ≤ digit ∧ digit ≤ '9' then some (digit.toNat - '0'.toNat) else none

/-- The indicators of a block scalar, in either order, and what follows them. -/
def blockHeader (text : List Placed) : BlockHeader × List Placed :=
  match text with
  | [] => (⟨.clip, none⟩, [])
  | first :: rest =>
    match chompingOf? first.character with
    | some chomping =>
      match rest.head?.bind fun second => incrementOf? second.character with
      | some increment => (⟨chomping, some increment⟩, rest.drop 1)
      | none => (⟨chomping, none⟩, rest)
    | none =>
      match incrementOf? first.character with
      | none => (⟨.clip, none⟩, text)
      | some increment =>
        match rest.head?.bind fun second => chompingOf? second.character with
        | some chomping => (⟨chomping, some increment⟩, rest.drop 1)
        | none => (⟨.clip, some increment⟩, rest)

/-- The breaks of empty lines up to the next line of a block, the largest column that they reach,
and that line. Without an indentation all spaces are eaten. -/
def emptyLines (indentation : Option Nat) :
    Nat → List Placed → Option (List Char × Nat × List Placed)
  | widest, [] => some ([], widest, [])
  | widest, first :: rest =>
    let isMargin := indentation.all fun indentation => first.column < indentation
    if isMargin && first.character = ' ' then emptyLines indentation widest rest
    else if isMargin && first.character = '\t' then none
    else if first.isBreak then
      (emptyLines indentation (max widest first.column) rest).map fun (breaks, widest, rest) =>
        (first.character :: breaks, widest, rest)
    else some ([], max widest first.column, first :: rest)

/-- A line of a block scalar with the break at its end and those of the empty lines after it. -/
structure BlockLine where
  text : List Char
  lineBreak : List Char
  emptyLines : List Char

/-- The lines of a block at an indentation, within a number of lines, and what follows them. -/
def blockLines (indentation : Nat) : Nat → List Placed → Option (List BlockLine × List Placed)
  | 0, _ => none
  | count + 1, text =>
    match text with
    | [] => some ([], [])
    | first :: _ =>
      if first.column ≠ indentation then some ([], text)
      else
        let line := characters (text.takeWhile fun placed => !placed.isBreak)
        let rest := afterLine text
        do
          let (breaks, _, after) ← emptyLines (some indentation) 0 (rest.drop 1)
          let (others, after) ← blockLines indentation count after
          return (⟨line, characters (rest.take 1), breaks⟩ :: others, after)

/-- Whether a line is indented further than the block. -/
def BlockLine.isIndented (line : BlockLine) : Bool := line.text.head?.any isBlank

/-- What stands between a line and the next one. -/
def BlockLine.separator (isFolded : Bool) (line next : BlockLine) : List Char :=
  if isFolded && line.lineBreak == ['\n'] && !line.isIndented && !next.isIndented then
    if line.emptyLines.isEmpty then [' '] else line.emptyLines
  else line.lineBreak ++ line.emptyLines

/-- What stands after the last line. -/
def BlockLine.tail (chomping : Chomping) (line : BlockLine) : List Char :=
  match chomping with
  | .strip => []
  | .clip => line.lineBreak
  | .keep => line.lineBreak ++ line.emptyLines

/-- The text of a block with the given lines. -/
def blockText (isFolded : Bool) (chomping : Chomping) : List BlockLine → List Char
  | [] => []
  | [last] => last.text ++ last.tail chomping
  | line :: next :: others =>
    line.text ++ line.separator isFolded next ++ blockText isFolded chomping (next :: others)

/-- The breaks at the start of a block scalar, which are kept before a first line. -/
def leadingBreaks (chomping : Chomping) (lines : List BlockLine) (breaks : List Char) :
    List Char :=
  if lines.isEmpty && chomping ≠ .keep then [] else breaks

/-- A block scalar after its first indicator, within a block of the given indentation, and what
follows it. -/
def blockScalar? (isFolded : Bool) (outer : Int) (text : List Placed) :
    Option (List Char × List Placed) := do
  let (header, rest) := blockHeader text
  let rest ← afterLineEnd? rest
  let told := header.increment.map fun increment => (max outer 0).toNat + increment
  let (breaks, widest, rest) ← emptyLines told 0 rest
  let indentation := told.getD (max widest (max (outer + 1).toNat 1))
  let (lines, rest) ← blockLines indentation (rest.length + 1) rest
  return (leadingBreaks header.chomping lines breaks ++
    blockText isFolded header.chomping lines, rest)

end Registrar.Yaml
