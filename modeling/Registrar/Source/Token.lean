/-!
# Token trees

Source text is read as a list of token trees: words, punctuation marks, literals, and bracketed
groups of token trees. A punctuation mark remembers whether the next character of the text is a
mark too, because operators of several characters are sequences of joint marks.

`TokenTree.writtenList` writes token trees with one space between two of them, except after a joint
mark.
-/

namespace Registrar.Source

/-- The three kinds of brackets. -/
inductive Delimiter
  | parenthesis | bracket | brace
  deriving DecidableEq, Repr

/-- One token tree. A raw word keeps its `r#`, and a literal keeps its spelling. -/
inductive TokenTree
  | word (name : String)
  | mark (character : Char) (joint : Bool)
  | literal (spelling : String)
  | group (delimiter : Delimiter) (content : List TokenTree)
  deriving Repr, Inhabited

/-- Token trees, one after the other. -/
abbrev Tokens := List TokenTree

namespace Delimiter

/-- The text that opens a group; a brace is set off from what it encloses. -/
def opening : Delimiter → List Char
  | parenthesis => ['(']
  | bracket => ['[']
  | brace => ['\x7b', ' ']

/-- The text that closes a group with the given content. -/
def closing (content : Tokens) : Delimiter → List Char
  | parenthesis => [')']
  | bracket => [']']
  | brace => if content.isEmpty then ['\x7d'] else [' ', '\x7d']

end Delimiter

namespace TokenTree

mutual

/-- The written form of a token tree. -/
def written : TokenTree → List Char
  | word name => name.toList
  | mark character _ => [character]
  | literal spelling => spelling.toList
  | group delimiter content =>
    delimiter.opening ++ writtenList content ++ delimiter.closing content

/-- The text of token trees, with a blank between each two but after a joint mark. -/
def writtenList : List TokenTree → List Char
  | [] => []
  | [last] => written last
  | first :: second :: rest =>
    written first ++ (match first with
      | mark _ true => []
      | _ => [' ']) ++ writtenList (second :: rest)

end

/-- Whether a tree is something in braces. -/
def isBraceGroup : TokenTree → Bool
  | group .brace _ => true
  | _ => false

end TokenTree

end Registrar.Source
