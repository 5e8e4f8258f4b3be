import Registrar.Document
import Registrar.Text.Hexadecimal
import Registrar.Time.Date

/-!
# Documents in TOML

A text is read line by line: an assignment puts a value under a dotted key of the current section,
and a header in brackets starts a section. A section is written once; a table that only dotted keys
or longer headers name may still get more. Dates are tables that have no field anyone asks for.
-/

namespace Registrar.Toml

/-- What a section holds under a key. -/
inductive Node
  | value (document : Document)
  /-- Sections of one name, of which the last one may get more. -/
  | sections (items : List Node)
  /-- A table. It is implicit if no header of its own was read, and dotted if an assignment made
  it. -/
  | table (isImplicit isDotted : Bool) (entries : List (String × Node))

/-- The table without entries that a header or a key begins. -/
def emptyTable : Node := .table false false []

mutual

/-- The document that a finished node is. -/
def Node.document : Node → Document
  | .value document => document
  | .sections items => .list (documents items)
  | .table _ _ entries => .table (entryDocuments entries)

/-- The documents that finished nodes are. -/
def documents : List Node → List Document
  | [] => []
  | node :: others => node.document :: documents others

/-- The entries of a finished table. -/
def entryDocuments : List (String × Node) → List (Option String × Document)
  | [] => []
  | (key, node) :: others => (some key, node.document) :: entryDocuments others

end

/-- Changes what stands under a key, or what is put there. -/
def changeEntry (change : Option Node → Option Node) (key : String) :
    List (String × Node) → Option (List (String × Node))
  | [] => (change none).map fun node => [(key, node)]
  | (first, node) :: others =>
    if first = key then (change (some node)).map fun node => (first, node) :: others
    else (changeEntry change key others).map fun others => (first, node) :: others

/-- Changes the last node of a list, if there is one. -/
def changeLast (change : Node → Option Node) : List Node → Option (List Node)
  | [] => none
  | [last] => (change last).map fun node => [node]
  | first :: others => (changeLast change others).map fun others => first :: others

/-- Changes the table that a path leads to. Tables that are missing on the way are made; an
assignment does not lead through tables that have headers. -/
def changeTable (byAssignment : Bool) (change : Node → Option Node) :
    List String → Node → Option Node
  | [], node => change node
  | key :: path, .table isImplicit isDotted entries =>
    let descend : Option Node → Option Node := fun
      | none => changeTable byAssignment change path (.table true byAssignment [])
      | some (.value _) => none
      | some (.sections items) =>
        (changeLast (changeTable byAssignment change path) items).map .sections
      | some (.table isImplicit isDotted entries) =>
        if byAssignment && !isImplicit then none
        else changeTable byAssignment change path (.table isImplicit isDotted entries)
    (changeEntry descend key entries).map (.table isImplicit isDotted)
  | _ :: _, _ => none

/-- Puts a value under a dotted key of a table. -/
def assign (key : List String) (value : Document) (table : Node) : Option Node := do
  let last ← key.getLast?
  let path := key.dropLast
  let put : Node → Option Node := fun
    | .table isImplicit isDotted entries =>
      if isDotted == path.isEmpty then none
      else
        (changeEntry (fun | none => some (.value value) | some _ => none) last entries).map
          (.table isImplicit isDotted)
    | _ => none
  changeTable true put path table

/-- Begins the table that a header names. -/
def startSection (key : List String) (root : Node) : Option Node := do
  let last ← key.getLast?
  let start : Option Node → Option Node := fun
    | none => some emptyTable
    | some (.table true false entries) => some (.table false false entries)
    | some _ => none
  let put : Node → Option Node := fun
    | .table isImplicit isDotted entries =>
      (changeEntry start last entries).map (.table isImplicit isDotted)
    | _ => none
  changeTable false put key.dropLast root

/-- Starts a further section of a header in double brackets. -/
def startItem (key : List String) (root : Node) : Option Node := do
  let last ← key.getLast?
  let start : Option Node → Option Node := fun
    | none => some (.sections [emptyTable])
    | some (.sections items) => some (.sections (items ++ [emptyTable]))
    | some _ => none
  let put : Node → Option Node := fun
    | .table isImplicit isDotted entries =>
      (changeEntry start last entries).map (.table isImplicit isDotted)
    | _ => none
  changeTable false put key.dropLast root

/-- Puts a value under a dotted key of the current section. -/
def assignIn (section' : List String) (key : List String) (value : Document) (root : Node) :
    Option Node :=
  changeTable false (assign key value) section' root

/-! ## Characters -/

/-- Whether a character may stand in a comment or, quotes and backslashes apart, in a string. -/
def isPlain (character : Char) : Bool :=
  character = '\t' || (0x20 ≤ character.toNat && character.toNat ≠ 0x7F)

/-- Whether a bare key may hold a character. -/
def isKeyCharacter (character : Char) : Bool :=
  character.isAlphanum || character = '_' || character = '-'

/-- Whether a character separates words within a line. -/
def isSpace (character : Char) : Bool := character = ' ' || character = '\t'

/-- What follows the spaces at the start of the input. -/
def skipSpaces (input : List Char) : List Char := input.dropWhile isSpace

/-- What follows a line break. -/
def afterBreak? : List Char → Option (List Char)
  | '\n' :: rest => some rest
  | '\r' :: '\n' :: rest => some rest
  | _ => none

/-- What follows a comment, which ends with its line. -/
def afterComment? : List Char → Option (List Char)
  | '#' :: rest => some (rest.dropWhile isPlain)
  | _ => none

/-- What follows the end of a line, which may hold a comment. The end of the text is one. -/
def afterLine? (input : List Char) : Option (List Char) :=
  let rest := skipSpaces input
  let rest := (afterComment? rest).getD rest
  if rest.isEmpty then some [] else afterBreak? rest

/-- Drops blanks, line breaks and comments, within a number of steps. -/
def skipGaps : Nat → List Char → List Char
  | 0, input => input
  | steps + 1, input =>
    let rest := skipSpaces input
    match afterBreak? rest with
    | some rest => skipGaps steps rest
    | none =>
      match afterComment? rest with
      | some rest => skipGaps steps rest
      | none => rest

/-! ## Strings -/

/-- The character of hexadecimal digits, of which as many as asked for have to be there. -/
def hexCharacter? (count : Nat) (digits : List Char) : Option Char := do
  let number ← Text.hexNumber? digits
  if digits.length = count ∧ number.isValidChar then some (Char.ofNat number) else none

/-- What an escape after its backslash stands for, and what follows it. -/
def escape? : List Char → Option (Char × List Char)
  | 'b' :: rest => some ('\x08', rest)
  | 't' :: rest => some ('\t', rest)
  | 'n' :: rest => some ('\n', rest)
  | 'f' :: rest => some ('\x0c', rest)
  | 'r' :: rest => some ('\r', rest)
  | '"' :: rest => some ('"', rest)
  | '\\' :: rest => some ('\\', rest)
  | 'u' :: rest => (hexCharacter? 4 (rest.take 4)).map fun character => (character, rest.drop 4)
  | 'U' :: rest => (hexCharacter? 8 (rest.take 8)).map fun character => (character, rest.drop 8)
  | _ => none

/-- Drops blanks and line breaks. -/
def skipBlankLines : List Char → List Char
  | '\r' :: '\n' :: rest => skipBlankLines rest
  | character :: rest =>
    if isSpace character || character = '\n' then skipBlankLines rest else character :: rest
  | [] => []

/-- A string in double quotes after the first one, within a number of steps, and what follows. -/
def basicString? : Nat → List Char → Option (List Char × List Char)
  | 0, _ => none
  | steps + 1, input =>
    match input with
    | [] => none
    | '"' :: rest => some ([], rest)
    | '\\' :: rest => do
      let (character, rest) ← escape? rest
      let (characters, rest) ← basicString? steps rest
      return (character :: characters, rest)
    | character :: rest =>
      if isPlain character then
        (basicString? steps rest).map fun (characters, rest) => (character :: characters, rest)
      else none

/-- A string in single quotes after the first one, and what follows it. -/
def literalString? (input : List Char) : Option (List Char × List Char) :=
  let content := input.takeWhile fun character => isPlain character && character ≠ '\''
  match input.drop content.length with
  | '\'' :: rest => some (content, rest)
  | _ => none

/-- The end of a string in three quotes: up to two more quotes belong to the string. -/
def tripleEnd? (quote : Char) (input : List Char) : Option (List Char × List Char) :=
  let quotes := (input.takeWhile (· = quote)).take 5
  if 3 ≤ quotes.length then some (quotes.drop 3, input.drop quotes.length) else none

/-- A string in three double quotes after them, within a number of steps, and what follows it. -/
def basicLines? : Nat → List Char → Option (List Char × List Char)
  | 0, _ => none
  | steps + 1, input =>
    match tripleEnd? '"' input with
    | some found => some found
    | none =>
      match input with
      | [] => none
      | '\\' :: rest =>
        match afterBreak? (skipSpaces rest) with
        | some rest => basicLines? steps (skipBlankLines rest)
        | none => do
          let (character, rest) ← escape? rest
          let (characters, rest) ← basicLines? steps rest
          return (character :: characters, rest)
      | '\r' :: '\n' :: rest =>
        (basicLines? steps rest).map fun (characters, rest) => ('\n' :: characters, rest)
      | character :: rest =>
        if isPlain character || character = '\n' then
          (basicLines? steps rest).map fun (characters, rest) => (character :: characters, rest)
        else none

/-- A string in three single quotes after them, and what follows it. -/
def literalLines? (input : List Char) : Option (List Char × List Char) :=
  match tripleEnd? '\'' input with
  | some found => some found
  | none =>
    match input with
    | [] => none
    | '\r' :: '\n' :: rest =>
      (literalLines? rest).map fun (characters, rest) => ('\n' :: characters, rest)
    | character :: rest =>
      if isPlain character || character = '\n' then
        (literalLines? rest).map fun (characters, rest) => (character :: characters, rest)
      else none
termination_by input.length

/-- What follows a line break, where there is one. -/
def skipBreak (input : List Char) : List Char := (afterBreak? input).getD input

/-- A string of any kind and what follows it. -/
def string? (input : List Char) : Option (List Char × List Char) :=
  match input with
  | '"' :: '"' :: '"' :: rest => basicLines? (rest.length + 1) (skipBreak rest)
  | '\'' :: '\'' :: '\'' :: rest => literalLines? (skipBreak rest)
  | '"' :: rest => basicString? (rest.length + 1) rest
  | '\'' :: rest => literalString? rest
  | _ => none

/-! ## Keys -/

/-- Reads a key without dots, which is bare or between quotes. -/
def simpleKey? (input : List Char) : Option (String × List Char) :=
  match input with
  | '"' :: rest => (basicString? (rest.length + 1) rest).map fun (key, rest) =>
    (String.ofList key, rest)
  | '\'' :: rest => (literalString? rest).map fun (key, rest) => (String.ofList key, rest)
  | _ =>
    let key := input.takeWhile isKeyCharacter
    if key.isEmpty then none else some (String.ofList key, input.drop key.length)

/-- The parts of a key, separated by points, within a number of steps, and what follows them. -/
def keyParts? : Nat → List Char → Option (List String × List Char)
  | 0, _ => none
  | steps + 1, input => do
    let (part, rest) ← simpleKey? (skipSpaces input)
    match skipSpaces rest with
    | '.' :: rest => (keyParts? steps rest).map fun (parts, rest) => (part :: parts, rest)
    | rest => some ([part], rest)

/-- The number of parts of a key or of brackets around a value that is too many. -/
def depthLimit : Nat := 80

/-- A key, within a number of steps, and what follows it. -/
def key? (steps : Nat) (input : List Char) : Option (List String × List Char) :=
  (keyParts? steps input).filter fun (parts, _) => parts.length < depthLimit

/-! ## Numbers and dates -/

/-- Whether digits are separated by single underscores at most. -/
def areDigits (isDigit : Char → Bool) : List Char → Bool
  | [] => false
  | [digit] => isDigit digit
  | digit :: '_' :: rest => isDigit digit && areDigits isDigit rest
  | digit :: rest => isDigit digit && areDigits isDigit rest

/-- Whether characters are a whole decimal number without needless zeros. -/
def isDecimal (digits : List Char) : Bool :=
  digits = ['0'] || (areDigits Char.isDigit digits && digits.head? ≠ some '0')

/-- A number without its sign. -/
def withoutSign : List Char → List Char
  | '+' :: rest => rest
  | '-' :: rest => rest
  | input => input

/-- The least number that sixty-four bits with a sign do not hold. -/
def integerLimit : Nat := 9223372036854775808

/-- Whether characters are an integer of sixty-four bits. -/
def isInteger (input : List Char) : Bool :=
  let magnitude (base : Nat) (digits : List Char) : Nat :=
    Nat.ofDigitChars base (digits.filter (· ≠ '_')) 0
  match input with
  | '0' :: 'x' :: digits =>
    areDigits (fun digit => (Text.hexValue? digit).isSome) digits &&
      ((Text.hexNumber? (digits.filter (· ≠ '_'))).getD 0) < integerLimit
  | '0' :: 'o' :: digits =>
    areDigits (fun digit => '0' ≤ digit && digit ≤ '7') digits && magnitude 8 digits < integerLimit
  | '0' :: 'b' :: digits =>
    areDigits (fun digit => digit = '0' || digit = '1') digits && magnitude 2 digits < integerLimit
  | _ =>
    let digits := withoutSign input
    isDecimal digits &&
      (magnitude 10 digits < integerLimit ||
        (input.head? = some '-' && magnitude 10 digits = integerLimit))

/-- The least number that a float is too small for, half a step above the largest float. -/
def floatLimit : Nat := Nat.pow 2 1024 - Nat.pow 2 970

/-- Whether a whole number times a power of ten is too large for a float. Only numbers of about as
many digits as the limit has need to be compared with it. -/
def isTooLarge (number : Nat) (power : Int) : Bool :=
  let digits : Int := (Nat.toDigits 10 number).length + power
  if number = 0 || digits < 300 then false
  else if 320 < digits then true
  else floatLimit * Nat.pow 10 (-power).toNat ≤ number * Nat.pow 10 power.toNat

/-- The number that an exponent tells after its letter, which may have a sign. -/
def exponentValue (exponent : List Char) : Int :=
  let magnitude : Int :=
    Nat.ofDigitChars 10 ((withoutSign exponent).filter Char.isDigit) 0
  if exponent.head? = some '-' then -magnitude else magnitude

/-- Whether a float without a sign, which is well formed, is too large. -/
def isInfinite (unsigned : List Char) : Bool :=
  let mantissa := unsigned.takeWhile fun character => character ≠ 'e' && character ≠ 'E'
  let fraction := (mantissa.dropWhile (· ≠ '.')).filter Char.isDigit
  isTooLarge (Nat.ofDigitChars 10 (mantissa.filter Char.isDigit) 0)
    (exponentValue (unsigned.drop (mantissa.length + 1)) - fraction.length)

/-- Whether a text is the exponent of a float. -/
def isExponent : List Char → Bool
  | 'e' :: rest => areDigits Char.isDigit (withoutSign rest)
  | 'E' :: rest => areDigits Char.isDigit (withoutSign rest)
  | _ => false

/-- Whether characters are a float. Only a negative one may be too large. -/
def isFloat (input : List Char) : Bool :=
  let unsigned := withoutSign input
  let isMark := fun character => character = '.' || character = 'e' || character = 'E'
  let whole := unsigned.takeWhile fun character => !isMark character
  if unsigned = ['i', 'n', 'f'] || unsigned = ['n', 'a', 'n'] then true
  else isDecimal whole && (input.head? = some '-' || !isInfinite unsigned) &&
    match unsigned.drop whole.length with
    | '.' :: rest =>
      let fraction := rest.takeWhile fun character => !isMark character
      areDigits Char.isDigit fraction &&
        (rest.length = fraction.length || isExponent (rest.drop fraction.length))
    | rest => isExponent rest

/-- The number that the first two characters are, and what follows them. -/
def twoDigits? : List Char → Option (Nat × List Char)
  | a :: b :: rest =>
    if a.isDigit && b.isDigit then some (Nat.ofDigitChars 10 [a, b] 0, rest) else none
  | _ => none

/-- What follows a date. -/
def afterDate? (input : List Char) : Option (List Char) := do
  let year := input.take 4
  if year.length = 4 ∧ year.all Char.isDigit then
    match input.drop 4 with
    | '-' :: rest =>
      let (month, rest) ← twoDigits? rest
      match rest with
      | '-' :: rest =>
        let (day, rest) ← twoDigits? rest
        let date : Date := ⟨Nat.ofDigitChars 10 year 0, month, day⟩
        if date.isValid then some rest else none
      | _ => none
    | _ => none
  else none

/-- What follows a time of day. -/
def afterTime? (input : List Char) : Option (List Char) := do
  let (hour, rest) ← twoDigits? input
  match rest with
  | ':' :: rest =>
    let (minute, rest) ← twoDigits? rest
    match rest with
    | ':' :: rest =>
      let (second, rest) ← twoDigits? rest
      if hour ≤ 23 ∧ minute ≤ 59 ∧ second ≤ 60 then
        match rest with
        | '.' :: rest =>
          if (rest.takeWhile Char.isDigit).isEmpty then none
          else some (rest.dropWhile Char.isDigit)
        | _ => some rest
      else none
    | _ => none
  | _ => none

/-- Whether characters are an offset from universal time, or nothing. -/
def isOffset : List Char → Bool
  | [] => true
  | ['Z'] => true
  | ['z'] => true
  | sign :: rest =>
    (sign = '+' || sign = '-') &&
      match twoDigits? rest with
      | some (hour, ':' :: rest) =>
        match twoDigits? rest with
        | some (minute, []) => hour ≤ 23 && minute ≤ 59
        | _ => false
      | _ => false

/-- Whether characters are a date, a time of day or both. -/
def isMoment (input : List Char) : Bool :=
  match afterDate? input with
  | some [] => true
  | some (mark :: rest) =>
    (mark = 'T' || mark = 't' || mark = ' ') && ((afterTime? rest).map isOffset).getD false
  | none => afterTime? input = some []

/-- Whether a number, a date or a time may hold a character. -/
def isNumberCharacter (character : Char) : Bool :=
  isKeyCharacter character || character = '+' || character = '.' || character = ':'

/-- A value that is neither a string nor made of others, and what follows it. -/
def scalar? (input : List Char) : Option (Document × List Char) :=
  let first := input.takeWhile isNumberCharacter
  let rest := input.drop first.length
  if first = "true".toList || first = "false".toList || isInteger first || isFloat first then
    some (.other, rest)
  else
    let second := rest.tail.takeWhile isNumberCharacter
    if rest.head? = some ' ' && isMoment (first ++ ' ' :: second) then
      some (.table [], rest.tail.drop second.length)
    else if isMoment first then some (.table [], rest)
    else none

/-! ## Values and lines -/

mutual

/-- A value within a number of brackets and what follows it, within a number of steps. -/
def value? : Nat → (depth : Nat) → List Char → Option (Document × List Char)
  | 0, _, _ => none
  | steps + 1, depth, input =>
    match input with
    | '[' :: rest =>
      if depth + 1 < depthLimit then
        (items? steps (depth + 1) rest).map fun (items, rest) => (.list items, rest)
      else none
    | '\x7b' :: rest =>
      match skipSpaces rest with
      | '\x7d' :: rest => some (.table [], rest)
      | rest =>
        if depth + 1 < depthLimit then
          (assignments? steps (depth + 1) emptyTable rest).map fun (table, rest) =>
            (table.document, rest)
        else none
    | '"' :: _ => (string? input).map fun (text, rest) => (.text (String.ofList text), rest)
    | '\'' :: _ => (string? input).map fun (text, rest) => (.text (String.ofList text), rest)
    | _ => scalar? input

/-- The items of a list up to its end, and what follows it. -/
def items? : Nat → (depth : Nat) → List Char → Option (List Document × List Char)
  | 0, _, _ => none
  | steps + 1, depth, input =>
    match skipGaps input.length input with
    | ']' :: rest => some ([], rest)
    | rest => do
      let (item, rest) ← value? steps depth rest
      match skipGaps rest.length rest with
      | ',' :: rest => (items? steps depth rest).map fun (items, rest) => (item :: items, rest)
      | ']' :: rest => some ([item], rest)
      | _ => none

/-- The assignments of a table on one line up to its end, and what follows it. -/
def assignments? : Nat → (depth : Nat) → Node → List Char → Option (Node × List Char)
  | 0, _, _, _ => none
  | steps + 1, depth, table, input => do
    let (key, rest) ← key? input.length input
    match rest with
    | '=' :: rest =>
      let (value, rest) ← value? steps depth (skipSpaces rest)
      let table ← assign key value table
      match skipSpaces rest with
      | ',' :: rest => assignments? steps depth table rest
      | '\x7d' :: rest => some (table, rest)
      | _ => none
    | _ => none

end

/-- Reads lines into a table, within a number of steps; `section'` is the header of the current
section. -/
def lines? : Nat → List String → Node → List Char → Option Node
  | 0, _, _, _ => none
  | steps + 1, section', root, input =>
    match skipGaps input.length input with
    | [] => some root
    | '[' :: '[' :: rest => do
      let (key, rest) ← key? rest.length rest
      match rest with
      | ']' :: ']' :: rest => lines? steps key (← startItem key root) (← afterLine? rest)
      | _ => none
    | '[' :: rest => do
      let (key, rest) ← key? rest.length rest
      match rest with
      | ']' :: rest => lines? steps key (← startSection key root) (← afterLine? rest)
      | _ => none
    | rest => do
      let (key, rest) ← key? rest.length rest
      match rest with
      | '=' :: rest =>
        let (value, rest) ← value? rest.length 0 (skipSpaces rest)
        lines? steps section' (← assignIn section' key value root) (← afterLine? rest)
      | _ => none

/-- The document of a text, which may start with a mark of byte order. -/
def read? (input : List Char) : Option Document :=
  let input := match input with
    | '\ufeff' :: rest => rest
    | input => input
  (lines? (input.length + 1) [] emptyTable input).map Node.document

end Registrar.Toml
