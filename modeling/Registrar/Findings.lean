import Registrar.Contract
import Registrar.FilePath

/-!
# Findings

What a source file adds to a run: a verdict on each of its marked declarations, and the names of
the declarations that override a conversion. A file that adds nothing is told by the reason.
-/

namespace Registrar

/-- The two conversions for which a source file can give a function. -/
inductive OverrideKind
  | serializer | deserializer
  deriving DecidableEq, Repr

namespace OverrideKind

/-- How a kind is called in reports. -/
def label : OverrideKind → String
  | serializer => "serializer"
  | deserializer => "deserializer"

/-- How a kind is called in events. -/
def title : OverrideKind → String
  | serializer => "Serializer"
  | deserializer => "Deserializer"

end OverrideKind

/-- A declaration that takes over a conversion. -/
structure OverrideBinding where
  kind : OverrideKind
  name : String
  module : String
  deriving DecidableEq, Repr

/-- What a scanned file adds to a run. -/
structure Findings where
  module : String
  verdicts : List Verdict
  serializers : List String
  deserializers : List String
  deriving DecidableEq, Repr

namespace Findings

/-- What the marked declarations of a module come to under a contract. -/
def ofDeclarations (contract : ContractNames) (module : String)
    (declarations : List MarkedDeclaration) : Findings where
  module
  verdicts := declarations.map (contract.judge module)
  serializers :=
    (declarations.filter MarkedDeclaration.serializer).map MarkedDeclaration.name
  deserializers :=
    (declarations.filter MarkedDeclaration.deserializer).map MarkedDeclaration.name

/-- The declarations that meet the contract. -/
def candidates (findings : Findings) : List Candidate :=
  findings.verdicts.filterMap fun
    | .qualifies candidate => some candidate
    | _ => none

/-- The declarations that are marked but do not meet the contract. -/
def rejections (findings : Findings) : List Rejection :=
  findings.verdicts.filterMap fun
    | .rejected rejection => some rejection
    | _ => none

end Findings

/-- Why a file holds nothing for a run. -/
inductive Inapplicability
  | noModulePath
  | notSource
  deriving DecidableEq, Repr

/-- The reason in words. -/
def Inapplicability.message : Inapplicability → String
  | noModulePath => "no module path for file"
  | notSource => "not valid Rust"

/-- What the examination of a file comes to. -/
inductive Examination
  | scanned (findings : Findings)
  | notApplicable (reason : Inapplicability)
  /-- The file says that it is generated. -/
  | priorOutput
  | failed (error : String)
  deriving DecidableEq, Repr

/-- A file with the outcome of its examination. -/
structure ExaminedFile where
  file : FilePath
  examination : Examination
  deriving DecidableEq, Repr

end Registrar
