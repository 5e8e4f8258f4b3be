import Registrar.Contract

/-!
# Collisions of registry keys

Candidates are registered in the order of their names, and of their modules where names are equal.
A candidate whose key was taken before takes it over, and the one that had it is shadowed.
-/

namespace Registrar

/-- A candidate that takes over the key of another one. Both are told by their qualified names. -/
structure KeyCollision where
  key : String
  kept : String
  shadowed : String
  deriving DecidableEq, Repr

namespace Candidate

/-- The name of a candidate with its module in front. -/
def qualifiedName (candidate : Candidate) : String :=
  candidate.module ++ "::" ++ candidate.name

/-- Whether a candidate is registered no later than another one. -/
def precedes (left right : Candidate) : Bool :=
  left.name < right.name || left.name = right.name && left.module ≤ right.module

/-- Candidates in the order in which they are registered. -/
def sorted (candidates : List Candidate) : List Candidate :=
  candidates.mergeSort precedes

/-- The collisions among candidates that are registered in the given order after others, of which
the last one comes first. -/
def collisionsAfter (registered : List Candidate) : List Candidate → List KeyCollision
  | [] => []
  | candidate :: others =>
    ((registered.find? fun earlier => earlier.key = candidate.key).map fun earlier =>
      ⟨candidate.key, candidate.qualifiedName, earlier.qualifiedName⟩).toList ++
      collisionsAfter (candidate :: registered) others

/-- The collisions among candidates that are registered in the given order. -/
def collisions (candidates : List Candidate) : List KeyCollision :=
  collisionsAfter [] candidates

end Candidate

end Registrar
