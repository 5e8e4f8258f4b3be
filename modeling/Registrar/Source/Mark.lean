/-!
# Operators and separators

An operator is a sequence of punctuation characters. In a list of token trees it is spelled by
joint marks, and its last mark may be joint or not, so that `&&` starts with `&`.
-/

namespace Registrar.Source

/-- The characters of an operator or separator. -/
structure Mark where
  characters : List Char
  deriving DecidableEq, Repr

namespace Mark

/-- The mark `,`. -/
def comma : Mark := ⟨[',']⟩

/-- The mark `;`. -/
def semicolon : Mark := ⟨[';']⟩

/-- The mark `:`. -/
def colon : Mark := ⟨[':']⟩

/-- The mark `::`. -/
def pathSeparator : Mark := ⟨[':', ':']⟩

/-- The mark `->`. -/
def thinArrow : Mark := ⟨['-', '>']⟩

/-- The mark `=>`. -/
def fatArrow : Mark := ⟨['=', '>']⟩

/-- The mark `=`. -/
def equals : Mark := ⟨['=']⟩

/-- The mark `==`. -/
def equalsEquals : Mark := ⟨['=', '=']⟩

/-- The mark `<`. -/
def less : Mark := ⟨['<']⟩

/-- The mark `<=`. -/
def lessEquals : Mark := ⟨['<', '=']⟩

/-- The mark `>`. -/
def greater : Mark := ⟨['>']⟩

/-- The mark `>=`. -/
def greaterEquals : Mark := ⟨['>', '=']⟩

/-- The mark `!=`. -/
def notEquals : Mark := ⟨['!', '=']⟩

/-- The mark `+`. -/
def plus : Mark := ⟨['+']⟩

/-- The mark `+=`. -/
def plusEquals : Mark := ⟨['+', '=']⟩

/-- The mark `-`. -/
def minus : Mark := ⟨['-']⟩

/-- The mark `-=`. -/
def minusEquals : Mark := ⟨['-', '=']⟩

/-- The mark `*`. -/
def star : Mark := ⟨['*']⟩

/-- The mark `*=`. -/
def starEquals : Mark := ⟨['*', '=']⟩

/-- The mark `/`. -/
def slash : Mark := ⟨['/']⟩

/-- The mark `/=`. -/
def slashEquals : Mark := ⟨['/', '=']⟩

/-- The mark `%`. -/
def percent : Mark := ⟨['%']⟩

/-- The mark `%=`. -/
def percentEquals : Mark := ⟨['%', '=']⟩

/-- The mark `^`. -/
def caret : Mark := ⟨['^']⟩

/-- The mark `^=`. -/
def caretEquals : Mark := ⟨['^', '=']⟩

/-- The mark `&`. -/
def ampersand : Mark := ⟨['&']⟩

/-- The mark `&=`. -/
def ampersandEquals : Mark := ⟨['&', '=']⟩

/-- The mark `&&`. -/
def ampersands : Mark := ⟨['&', '&']⟩

/-- The mark `|`. -/
def bar : Mark := ⟨['|']⟩

/-- The mark `|=`. -/
def barEquals : Mark := ⟨['|', '=']⟩

/-- The mark `||`. -/
def bars : Mark := ⟨['|', '|']⟩

/-- The mark `<<`. -/
def shiftLeft : Mark := ⟨['<', '<']⟩

/-- The mark `<<=`. -/
def shiftLeftEquals : Mark := ⟨['<', '<', '=']⟩

/-- The mark `>>`. -/
def shiftRight : Mark := ⟨['>', '>']⟩

/-- The mark `>>=`. -/
def shiftRightEquals : Mark := ⟨['>', '>', '=']⟩

/-- The mark `!`. -/
def bang : Mark := ⟨['!']⟩

/-- The mark `?`. -/
def question : Mark := ⟨['?']⟩

/-- The mark `.`. -/
def dot : Mark := ⟨['.']⟩

/-- The mark `..`. -/
def dots : Mark := ⟨['.', '.']⟩

/-- The mark `...`. -/
def ellipsis : Mark := ⟨['.', '.', '.']⟩

/-- The mark `..=`. -/
def dotsEquals : Mark := ⟨['.', '.', '=']⟩

/-- The mark `@`. -/
def atSign : Mark := ⟨['@']⟩

/-- The mark `#`. -/
def hash : Mark := ⟨['#']⟩

end Mark

end Registrar.Source
