import Registrar.Source.File

/-!
# Marked declarations

A scan of a source file finds the type declarations at its top level that carry one of three
markers, in the order in which they stand, each with the shapes of the functions that the file
implements for the bare name of the type. A scan judges nothing.
-/

namespace Registrar

open Source (Attribute DeclarationKind Item Signature TokenTree Tokens)

/-- The names by which declarations are marked. A marker is recognised by the last segment of the
path of an attribute. -/
structure MarkerNames where
  encodable : String
  serializer : String
  deserializer : String
  deriving DecidableEq, Repr

namespace MarkerNames

/-- The names that are used unless others are given. -/
def standard : MarkerNames := ⟨"encodable", "codec_serializer", "codec_deserializer"⟩

end MarkerNames

/-- What the signature of a function shows: its name, whether it takes a receiver, the types of its
other inputs and the type of its result, all without blanks. -/
structure FunctionShape where
  name : String
  hasReceiver : Bool
  inputs : List String
  output : Option String
  deriving DecidableEq, Repr

namespace FunctionShape

/-- The text of a type, without blanks. -/
def typeText (tokens : Tokens) : String :=
  String.ofList (Text.withoutBlanks (TokenTree.writtenList tokens))

/-- The shape of a function with the given signature. -/
def ofSignature (signature : Signature) : FunctionShape where
  name := signature.name
  hasReceiver := signature.hasReceiver
  inputs := signature.inputs.map typeText
  output := signature.output.map typeText

end FunctionShape

/-- A type declaration that carries a marker. `encodable` is the first attribute that marks it as
encodable, and `generics` the text of its parameter list where it has parameters. -/
structure MarkedDeclaration where
  name : String
  kind : DeclarationKind
  encodable : Option Attribute
  serializer : Bool
  deserializer : Bool
  generics : Option String
  functions : List FunctionShape
  deriving Repr

namespace MarkedDeclaration

/-- The first function of the given name. -/
def function? (declaration : MarkedDeclaration) (name : String) : Option FunctionShape :=
  declaration.functions.find? fun shape => shape.name == name

/-- Whether an attribute is the given marker, by the last name of its path. -/
def carries (marker : String) (candidate : Attribute) : Bool :=
  candidate.path.lastName? == some marker

/-- The text of a parameter list without spaces, unless it is empty. -/
def genericsText (generics : Tokens) : Option String :=
  if generics.isEmpty then none
  else some (String.ofList ((TokenTree.writtenList generics).filter (· ≠ ' ')))

/-- The functions that the items implement for the type of the given name. -/
def functionsOf (name : String) (items : List Item) : List FunctionShape :=
  items.flatMap fun
    | .functions owner signatures =>
      if owner == name then signatures.map FunctionShape.ofSignature else []
    | _ => []

/-- The marked declaration that an item is, if it is one; `items` holds all items of the file. -/
def ofItem? (markers : MarkerNames) (items : List Item) : Item → Option MarkedDeclaration
  | .declaration kind attributes name generics =>
    let encodable := attributes.find? (carries markers.encodable)
    let serializer := attributes.any (carries markers.serializer)
    let deserializer := attributes.any (carries markers.deserializer)
    if encodable.isNone && !serializer && !deserializer then none
    else some {
      name, kind, encodable, serializer, deserializer
      generics := genericsText generics
      functions := functionsOf name items }
  | _ => none

/-- The marked declarations among the items of a file. -/
def ofItems (markers : MarkerNames) (items : List Item) : List MarkedDeclaration :=
  items.filterMap (ofItem? markers items)

/-- The marked declarations of a source file; nothing where the text is not one. -/
def scan? (markers : MarkerNames) (text : List Char) : Option (List MarkedDeclaration) :=
  (Source.items? text).map (ofItems markers)

end MarkedDeclaration

end Registrar
