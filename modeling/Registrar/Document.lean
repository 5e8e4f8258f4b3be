/-!
# Documents

What a configuration file holds, whatever its format: texts, lists and tables. A field of a table
that is not asked for is not looked at, and a field that is asked for may stand there once.
-/

namespace Registrar

/-- A value in a configuration file. -/
inductive Document
  | text (value : String)
  /-- No value. A format may give it a text. -/
  | null (text : Option String)
  /-- Nothing was written where a value could stand. -/
  | void
  /-- Nothing was written, but it was said that a value stands there. -/
  | blank
  /-- A value that is neither a text nor made of others, such as a number. -/
  | other
  | list (items : List Document)
  /-- A table. A key is missing where it is no text. -/
  | table (entries : List (Option String × Document))
  deriving Repr

/-- How a list may stand for a table: its items are the fields in their order. -/
inductive PositionalTables
  | refused
  /-- There may not be more items than fields. -/
  | exact
  | lenient
  deriving DecidableEq, Repr

namespace Document

/-- The text of a document where one is asked for. -/
def text? : Document → Option String
  | .text value => some value
  | .null spelling => spelling
  | .void => some ""
  | .blank => some ""
  | _ => none

/-- A value that may be missing, read by `read`. -/
def optional? (read : Document → Option α) : Document → Option (Option α)
  | .null _ => some none
  | .void => some none
  | value => (read value).map some

/-- The items of a document where a list is asked for, each read in the given way. -/
def list? (read : Document → Option α) : Document → Option (List α)
  | .list items => items.mapM read
  | .void => some []
  | .blank => some []
  | _ => none

/-- Whether no field is given twice. -/
def areDistinct : List (String × Document) → Bool
  | [] => true
  | (key, _) :: others => others.all (fun other => other.1 != key) && areDistinct others

/-- The entries with the given names, where every key is a text and no name comes twice. -/
def namedFields? (names : List String) (entries : List (Option String × Document)) :
    Option (List (String × Document)) := do
  let entries ← entries.mapM fun (key, value) => key.map fun key => (key, value)
  let named := entries.filter fun (key, _) => names.contains key
  if areDistinct named then some named else none

/-- The fields of the given names that a value gives. -/
def fields? (positional : PositionalTables) (names : List String) :
    Document → Option (List (String × Document))
  | .table entries => namedFields? names entries
  | .void => some []
  | .blank => some []
  | .list items =>
    match positional with
    | .refused => none
    | .exact => if items.length ≤ names.length then some (names.zip items) else none
    | .lenient => some (names.zip items)
  | _ => none

/-- The field of a name, if it is given and not missing. -/
def field? (fields : List (String × Document)) (name : String) (read : Document → Option α) :
    Option (Option α) :=
  match fields.lookup name with
  | none => some none
  | some value => optional? read value

end Document

end Registrar
