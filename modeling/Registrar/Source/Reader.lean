import Registrar.Source.Literal
import Registrar.Source.Mark
import Registrar.Source.Token

/-!
# Reading token trees

A reader takes token trees from the front of a list and gives back a value and the trees it left.
It fails where the trees do not have the form it reads. Readers that stand for a piece of syntax
give back the piece in a normal form of its own: operators are spelled with a mark that is joint to
the next one except the last, and separators that carry no meaning are dropped.

The predicates on `Tokens` look ahead without taking anything. Loops are bounded by the number of
trees left, since each of their rounds but the last takes one.
-/

namespace Registrar.Source

/-- Words that may not name anything unless they are written raw. -/
def reservedWords : List String :=
  ["_", "abstract", "as", "async", "await", "become", "box", "break", "const", "continue", "crate",
    "do", "dyn", "else", "enum", "extern", "false", "final", "fn", "for", "if", "impl", "in", "let",
    "loop", "macro", "match", "mod", "move", "mut", "override", "priv", "pub", "ref", "return",
    "Self", "self", "static", "struct", "super", "trait", "true", "try", "type", "typeof", "unsafe",
    "unsized", "use", "virtual", "where", "while", "yield"]

namespace Tokens

/-- Whether the trees start with the characters of an operator. -/
def atCharacters : List Char → Tokens → Bool
  | [last], .mark character _ :: _ => character == last
  | first :: others, .mark character joint :: rest =>
    character == first && joint && atCharacters others rest
  | _, _ => false

/-- Whether the trees start with an operator. -/
def atMark (mark : Mark) (tokens : Tokens) : Bool := atCharacters mark.characters tokens

/-- Whether the trees start with the given word. -/
def atWord (name : String) : Tokens → Bool
  | .word word :: _ => word == name
  | _ => false

/-- Whether the trees start with a word that may name something. -/
def atName : Tokens → Bool
  | .word word :: _ => !reservedWords.contains word
  | _ => false

/-- Whether a word comes next. -/
def atAnyWord : Tokens → Bool
  | .word _ :: _ => true
  | _ => false

/-- Whether a lifetime comes next. -/
def atLifetime : Tokens → Bool
  | .mark '\'' _ :: .word _ :: _ => true
  | _ => false

/-- Whether the trees start with a group in the given brackets. -/
def atGroup (delimiter : Delimiter) : Tokens → Bool
  | .group found _ :: _ => found == delimiter
  | _ => false

/-- Whether something in brackets comes next. -/
def atAnyGroup : Tokens → Bool
  | .group _ _ :: _ => true
  | _ => false

/-- Whether a literal is a number. -/
def isNumber (spelling : String) : Bool :=
  match spelling.toList with
  | character :: _ => character.isDigit
  | [] => false

/-- Whether the trees start with a literal, a truth value or a negative number. -/
def atLiteral : Tokens → Bool
  | .literal _ :: _ => true
  | .word word :: _ => word == "true" || word == "false"
  | .mark '-' _ :: .literal spelling :: _ => isNumber spelling
  | _ => false

/-- Whether the trees start with a string literal. -/
def atString : Tokens → Bool
  | .literal spelling :: _ => spelling.startsWith "\"" || spelling.startsWith "r"
  | _ => false

/-- The trees without the first one, where a lifetime counts as one. -/
def afterOne : Tokens → Tokens
  | .mark '\'' true :: .word _ :: rest => rest
  | _ :: rest => rest
  | [] => []

/-- The trees without the first two. -/
def afterTwo (tokens : Tokens) : Tokens := afterOne (afterOne tokens)

end Tokens

/-- Reads trees from the front of a list, or fails. -/
abbrev Reader := StateT Tokens Option

namespace Reader

/-- The trees of an operator in normal form. -/
def markTokens : List Char → Tokens
  | [] => []
  | [last] => [.mark last false]
  | first :: others => .mark first true :: markTokens others

/-- Reads an operator. -/
def mark (expected : Mark) : Reader Tokens := do
  let tokens ← get
  if tokens.atMark expected then
    set (tokens.drop expected.characters.length)
    pure (markTokens expected.characters)
  else failure

/-- Reads an operator if it is there. -/
def optionalMark (expected : Mark) : Reader Tokens := do
  if (← get).atMark expected then mark expected else pure []

/-- Reads the given word. -/
def word (expected : String) : Reader Tokens := do
  match ← get with
  | .word name :: rest =>
    if name == expected then
      set (rest : Tokens)
      pure [.word name]
    else failure
  | _ => failure

/-- Reads the given word if it comes next. -/
def optionalWord (expected : String) : Reader Tokens := do
  if (← get).atWord expected then word expected else pure []

/-- Reads any word. -/
def anyWord : Reader String := do
  match ← get with
  | .word name :: rest =>
    set (rest : Tokens)
    pure name
  | _ => failure

/-- Reads a name, which is no keyword. -/
def name : Reader String := do
  if (← get).atName then anyWord else failure

/-- Reads a name or an underscore. -/
def nameOrUnderscore : Reader String := do
  let tokens ← get
  if tokens.atName || tokens.atWord "_" then anyWord else failure

/-- Reads a lifetime. -/
def lifetime : Reader Tokens := do
  match ← get with
  | .mark '\'' _ :: .word name :: rest =>
    set (rest : Tokens)
    pure [.mark '\'' true, .word name]
  | _ => failure

/-- Reads a lifetime if one comes next. -/
def optionalLifetime : Reader Tokens := do
  if (← get).atLifetime then lifetime else pure []

/-- Reads a literal, a truth value or a negative number. -/
def literal : Reader Tokens := do
  match ← get with
  | .literal spelling :: rest =>
    set (rest : Tokens)
    pure [.literal spelling]
  | .word name :: rest =>
    if name == "true" || name == "false" then
      set (rest : Tokens)
      pure [.word name]
    else failure
  | .mark '-' _ :: .literal spelling :: rest =>
    if Tokens.isNumber spelling then
      set (rest : Tokens)
      pure [.mark '-' false, .literal spelling]
    else failure
  | _ => failure

/-- Fails unless a condition holds. -/
def require (condition : Bool) : Reader Unit :=
  if condition then pure () else failure

/-- Whether nothing is left. -/
def atEnd : Reader Bool := do
  return (← get).isEmpty

/-- What a reader makes of a list of trees, of which it may leave none. -/
def whole (reader : Reader α) (tokens : Tokens) : Option α :=
  match reader.run tokens with
  | some (value, []) => some value
  | _ => none

/-- Reads a group in the given brackets, whose content the reader has to take as a whole. -/
def inside (delimiter : Delimiter) (reader : Reader α) : Reader α := do
  match ← get with
  | .group found content :: rest =>
    if found = delimiter then
      match whole reader content with
      | some value =>
        set (rest : Tokens)
        pure value
      | none => failure
    else failure
  | _ => failure

/-- Reads a group whose normal form is that of its content in the same brackets. -/
def enclosed (delimiter : Delimiter) (reader : Reader Tokens) : Reader Tokens := do
  return [.group delimiter (← inside delimiter reader)]

/-- Reads brackets of any kind, and hands over what is in them. -/
def anyGroup : Reader (Delimiter × Tokens) := do
  match ← get with
  | .group delimiter content :: rest =>
    set (rest : Tokens)
    pure (delimiter, content)
  | _ => failure

/-- Applies a step to a value as long as the step gives a new one, within a number of rounds. -/
def extendWithin (step : α → Reader (Option α)) : Nat → α → Reader α
  | 0, _ => failure
  | rounds + 1, value => do
    match ← step value with
    | none => pure value
    | some next => extendWithin step rounds next

/-- Applies a step to a value as long as the step gives a new one; such a step takes a tree. -/
def extend (step : α → Reader (Option α)) (value : α) : Reader α := do
  extendWithin step ((← get).length + 1) value

/-- Reads pieces as long as the trees left satisfy a condition. -/
def «repeat» (continues : Tokens → Bool) (piece : Reader α) : Reader (List α) := do
  let pieces ← extend (fun pieces => do
    if continues (← get) then return some ((← piece) :: pieces) else return none) []
  pure pieces.reverse

/-- Reads pieces, each with the separator after it if there is one. The sequence ends where
`endsBefore` holds before a piece or `endsAfter` holds after one. -/
def separated (endsBefore endsAfter : Tokens → Bool) (separator : Mark) (piece : Reader α) :
    Reader (List (α × Tokens)) := do
  let (pieces, _) ← extend (fun (pieces, finished) => do
    if finished || endsBefore (← get) then return none
    let value ← piece
    if endsAfter (← get) then return some ((value, []) :: pieces, true)
    return some ((value, ← mark separator) :: pieces, false)) (([] : List (α × Tokens)), false)
  pure pieces.reverse

/-- The trees of pieces and their separators. -/
def joined (pieces : List (Tokens × Tokens)) : Tokens :=
  pieces.flatMap fun (piece, separator) => piece ++ separator

/-- Reads pieces with commas between them, and perhaps one after the last, up to the end. -/
def commaSeparated (piece : Reader Tokens) : Reader Tokens := do
  return joined (← separated List.isEmpty List.isEmpty .comma piece)

end Reader

end Registrar.Source
