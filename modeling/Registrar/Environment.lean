/-!
# The environment of a run

The variables that a run can read.
-/

namespace Registrar

/-- Variables with their values. -/
structure Environment where
  bindings : List (String × String)
  deriving Repr

namespace Environment

/-- The value of a variable, if it is set. -/
def get? (environment : Environment) (name : String) : Option String :=
  environment.bindings.lookup name

/-- Whether a variable is set, be it to the empty text. -/
def isSet (environment : Environment) (name : String) : Bool :=
  (environment.get? name).isSome

end Environment

end Registrar
