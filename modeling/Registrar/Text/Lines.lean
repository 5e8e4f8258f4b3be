/-!
# Lines

A line ends at a line feed, which may follow a carriage return. The end of the text ends its last
line, and a text that ends with a line feed has no empty line after it.
-/

namespace Registrar.Text

/-- The lines of a text, without their line breaks. -/
def lines : List Char → List (List Char)
  | [] => []
  | '\n' :: rest => [] :: lines rest
  | '\r' :: '\n' :: rest => [] :: lines rest
  | character :: rest =>
    match lines rest with
    | [] => [[character]]
    | line :: others => (character :: line) :: others

/-- Whether `part` occurs in `text` as consecutive characters. -/
def contains (part : List Char) : List Char → Bool
  | [] => part.isEmpty
  | character :: rest => part.isPrefixOf (character :: rest) || contains part rest

end Registrar.Text
