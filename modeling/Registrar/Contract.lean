import Registrar.Declaration

/-!
# The contract of encodable declarations

A declaration that is marked as encodable can be registered if it has no generic parameters, a
method that gives a map back, a constructor that takes a map, and a marker whose argument names a
key or nothing. What breaks the contract is reported part by part, in this order.

A type counts as a map if its text starts with the name of the map type; types are not resolved.
-/

namespace Registrar

open Source (Attribute AttributeArgument Path TokenTree Tokens)

/-- The names that the contract asks for: those of the two functions and of the type of maps. -/
structure ContractNames where
  serializeMethod : String
  deserializeConstructor : String
  mapTypeName : String
  deriving DecidableEq, Repr

/-- The names that are used unless others are given. -/
def ContractNames.standard : ContractNames := ⟨"to_map", "from_map", "HashMap"⟩

/-- Whether the text of a type starts with the name of the map type. -/
def isMapLike (type mapTypeName : String) : Bool :=
  mapTypeName.toList.isPrefixOf type.toList

/-- The key under which a declaration is registered: its own key, else its name. -/
def registryKey (name customKey : String) : String :=
  if customKey.isEmpty then name else customKey

/-- What tells a declaration from all others: its name and its module. -/
structure DeclarationId where
  name : String
  module : String
  deriving DecidableEq, Repr

/-- A declaration that keeps the contract. -/
structure Candidate where
  name : String
  module : String
  customKey : String
  deriving DecidableEq, Repr

namespace Candidate

/-- The key under which the candidate is registered. -/
def key (candidate : Candidate) : String := registryKey candidate.name candidate.customKey

/-- The identity of the candidate. -/
def id (candidate : Candidate) : DeclarationId := ⟨candidate.name, candidate.module⟩

end Candidate

/-- The parts of the contract, in the order in which they are checked. -/
inductive ContractPart
  | declaration | serialize | deserialize | marker
  deriving DecidableEq, Repr

/-- The name of a part of the contract in a report. -/
def ContractPart.label : ContractPart → String
  | declaration => "declaration shape"
  | serialize => "serialize method"
  | deserialize => "deserialize constructor"
  | marker => "marker argument"

/-- What is wrong with the shape of a serialize method. -/
inductive SerializeProblem
  | static
  | takesArguments (count : Nat)
  | returns (type mapTypeName : String)
  | returnsNothing (mapTypeName : String)
  deriving DecidableEq, Repr

/-- What is wrong with the shape of a deserialize constructor. -/
inductive DeserializeProblem
  | takesReceiver
  | takes (type mapTypeName : String)
  | takesParameters (count : Nat)
  deriving DecidableEq, Repr

/-- One way in which a declaration breaks the contract. -/
inductive ContractViolation
  | genericDeclaration (parameters : String)
  | missingSerializeMethod (method : String)
  | serializeShape (method : String) (problem : SerializeProblem)
  | missingDeserializeConstructor (constructor : String)
  | deserializeShape (constructor : String) (problem : DeserializeProblem)
  | invalidMarkerArgument (found : String)
  deriving DecidableEq, Repr

/-- What is wrong with a function that serializes, in words. -/
def SerializeProblem.message : SerializeProblem → String
  | static => "is static, expected an instance method"
  | takesArguments count => s!"takes {count} argument(s), expected none"
  | returns type mapTypeName => s!"returns `{type}`, expected a {mapTypeName} value"
  | returnsNothing mapTypeName => s!"returns nothing, expected a {mapTypeName} value"

/-- What is wrong with a function that deserializes, in words. -/
def DeserializeProblem.message : DeserializeProblem → String
  | takesReceiver => "takes `self`, expected an associated constructor"
  | takes type mapTypeName => s!"takes `{type}`, expected a {mapTypeName} parameter"
  | takesParameters count => s!"takes {count} parameter(s), expected exactly one"

namespace ContractViolation

/-- The part of the contract that a violation breaks. -/
def part : ContractViolation → ContractPart
  | genericDeclaration _ => .declaration
  | missingSerializeMethod _ => .serialize
  | serializeShape _ _ => .serialize
  | missingDeserializeConstructor _ => .deserialize
  | deserializeShape _ _ => .deserialize
  | invalidMarkerArgument _ => .marker

/-- The violation in words. -/
def message : ContractViolation → String
  | genericDeclaration parameters =>
    s!"generic declarations cannot be registered, found parameters `{parameters}`"
  | missingSerializeMethod method => s!"missing serialize method `{method}(&self)`"
  | serializeShape method problem => s!"serialize method `{method}` {problem.message}"
  | missingDeserializeConstructor constructor =>
    s!"missing deserialize constructor `{constructor}(map)`"
  | deserializeShape constructor problem =>
    s!"deserialize constructor `{constructor}` {problem.message}"
  | invalidMarkerArgument found =>
    s!"marker argument must be a string literal or `name = \"..\"`, found `{found}`"

end ContractViolation

/-- A declaration that breaks the contract, with everything that breaks it. -/
structure Rejection where
  declaration : String
  violations : List ContractViolation
  deriving DecidableEq, Repr

namespace Rejection

/-- Drops each element that equals the one before it. -/
def withoutRepeats [DecidableEq α] : List α → List α
  | [] => []
  | [last] => [last]
  | first :: second :: rest =>
    if first = second then withoutRepeats (second :: rest)
    else first :: withoutRepeats (second :: rest)

/-- The parts of the contract that a rejected declaration breaks, each once. -/
def parts (rejection : Rejection) : List ContractPart :=
  withoutRepeats (rejection.violations.map ContractViolation.part)

/-- The reasons in words, one for each violation. -/
def reasons (rejection : Rejection) : List String :=
  rejection.violations.map ContractViolation.message

/-- The rejection in words. -/
def message (rejection : Rejection) : String :=
  rejection.declaration ++ ": " ++ "; ".intercalate rejection.reasons

end Rejection

/-- What becomes of a marked declaration. -/
inductive Verdict
  | qualifies (candidate : Candidate)
  | rejected (rejection : Rejection)
  /-- The declaration is not marked as encodable. -/
  | notApplicable
  deriving DecidableEq, Repr

namespace MarkerArgument

/-- The text that a literal denotes, if it is one of a string. -/
def stringText? (spelling : String) : Option String :=
  (Source.Literal.stringValue? spelling.toList).map String.ofList

/-- The text of a value that is a single string literal. -/
def valueText? : AttributeArgument → Option String
  | .value _ (some spelling) => stringText? spelling
  | _ => none

/-- The text of an argument of the form `name = "key"`. -/
def namedText? (content : Tokens) : Option String := do
  let (path, value) ← Source.Reader.whole (do
    let path ← Source.Grammar.attributePath
    return (path, ← Source.Grammar.attributeValue (Source.Grammar.forTokens content))) content
  let segment ← path.only?
  if segment.name == "name" && segment.arguments.isEmpty then valueText? value else none

/-- The key that the argument of a marker names, empty where it names none; nothing where the
argument has no form that names a key. -/
def key? (argument : AttributeArgument) : Option String :=
  match argument with
  | .absent => some ""
  | .list _ content =>
    match content with
    | [] => some ""
    | [.literal spelling] => stringText? spelling <|> namedText? content
    | _ => namedText? content
  | .value _ _ => valueText? argument

end MarkerArgument

namespace ContractNames

/-- What is wrong with the serialize method, if anything is. -/
def serializeViolation? (names : ContractNames) (shape : Option FunctionShape) :
    Option ContractViolation :=
  match shape with
  | none => some (.missingSerializeMethod names.serializeMethod)
  | some shape =>
    let problem :=
      if !shape.hasReceiver then some .static
      else if !shape.inputs.isEmpty then some (.takesArguments shape.inputs.length)
      else match shape.output with
        | some output =>
          if isMapLike output names.mapTypeName then none
          else some (SerializeProblem.returns output names.mapTypeName)
        | none => some (.returnsNothing names.mapTypeName)
    problem.map (.serializeShape names.serializeMethod)

/-- What is wrong with the deserialize constructor, if anything is. -/
def deserializeViolation? (names : ContractNames) (shape : Option FunctionShape) :
    Option ContractViolation :=
  match shape with
  | none => some (.missingDeserializeConstructor names.deserializeConstructor)
  | some shape =>
    let problem :=
      if shape.hasReceiver then some .takesReceiver
      else match shape.inputs with
        | [input] =>
          if isMapLike input names.mapTypeName then none
          else some (DeserializeProblem.takes input names.mapTypeName)
        | inputs => some (.takesParameters inputs.length)
    problem.map (.deserializeShape names.deserializeConstructor)

/-- What is wrong with the argument of a marker, if anything is. -/
def markerViolation? (marker : Attribute) : Option ContractViolation :=
  match MarkerArgument.key? marker.argument with
  | some _ => none
  | none => some (.invalidMarkerArgument (String.ofList (TokenTree.writtenList marker.content)))

/-- Everything that breaks the contract in a declaration with the given marker. -/
def violations (names : ContractNames) (declaration : MarkedDeclaration) (marker : Attribute) :
    List ContractViolation :=
  (declaration.generics.map ContractViolation.genericDeclaration).toList ++
    (names.serializeViolation? (declaration.function? names.serializeMethod)).toList ++
    (names.deserializeViolation? (declaration.function? names.deserializeConstructor)).toList ++
    (markerViolation? marker).toList

/-- The verdict on a declaration found in a module. -/
def judge (names : ContractNames) (module : String) (declaration : MarkedDeclaration) : Verdict :=
  match declaration.encodable with
  | none => .notApplicable
  | some marker =>
    match names.violations declaration marker with
    | [] =>
      .qualifies ⟨declaration.name, module, (MarkerArgument.key? marker.argument).getD ""⟩
    | violations => .rejected ⟨declaration.name, violations⟩

end ContractNames

end Registrar
