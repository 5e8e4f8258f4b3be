import Registrar.Text.Blank
import Registrar.Text.Lines
import Registrar.Time.Stamp

/-!
# The header of a generated file

A file says on its first line that it is generated. Near its start it may tell when.
-/

namespace Registrar.Header

/-- What the first line of a generated file contains. -/
def marker : List Char := "@generated".toList

/-- The start of the line that tells when a file was generated. -/
def stampStart : List Char := "// Generated at: ".toList

/-- The number of lines among which the stamp is looked for. -/
def depth : Nat := 3

/-- Whether the first line of a text says that it is generated. -/
def isGenerated (text : List Char) : Bool :=
  match (Text.lines text).head? with
  | some line => Text.contains marker line
  | none => false

/-- What follows the given start of a line, if the line starts so. -/
def afterStart? (start line : List Char) : Option (List Char) :=
  if start.isPrefixOf line then some (line.drop start.length) else none

/-- When a text says that it was generated. Only the first line that tells it counts. -/
def generatedAt? (text : List Char) : Option Instant := do
  let stamp ← ((Text.lines text).take depth).findSome? (afterStart? stampStart)
  Instant.ofStamp? (Text.trimBlanks stamp)

end Registrar.Header
