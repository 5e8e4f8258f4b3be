import Registrar.Aggregation

/-!
# Imports of the artifact

Each module that holds a candidate or an override is named in one line, which names what is taken
from it. Modules and names stand in the order of their characters, each once.
-/

namespace Registrar

/-- Puts a text into a list that is sorted and has each text once. -/
def insertSorted (text : String) : List String → List String
  | [] => [text]
  | first :: others =>
    if text < first then text :: first :: others
    else if text = first then first :: others
    else first :: insertSorted text others

/-- The texts of a list in the order of their characters, each once. -/
def sortedDistinct (texts : List String) : List String :=
  texts.foldr insertSorted []

namespace Aggregation

/-- The declarations that the artifact names: its candidates and the overrides. -/
def importedIds (aggregation : Aggregation) : List DeclarationId :=
  aggregation.candidates.map Candidate.id ++
    (aggregation.serializer.toList ++ aggregation.deserializer.toList).map fun binding =>
      ⟨binding.name, binding.module⟩

end Aggregation

/-- The modules of declarations with the names that are taken from each. -/
def importsByModule (ids : List DeclarationId) : List (String × List String) :=
  (sortedDistinct (ids.map DeclarationId.module)).map fun module =>
    (module, sortedDistinct
      ((ids.filter fun id => id.module = module).map DeclarationId.name))

/-- The line that takes names from a module. -/
def importLine (module : String) (names : List String) : String :=
  match names with
  | [name] => "use " ++ module ++ "::" ++ name ++ ";"
  | names => "use " ++ module ++ "::\x7b" ++ ", ".intercalate names ++ "\x7d;"

/-- The lines that take what the artifact names from its modules. -/
def importLines (aggregation : Aggregation) : List String :=
  (importsByModule aggregation.importedIds).map fun (module, names) => importLine module names

end Registrar
