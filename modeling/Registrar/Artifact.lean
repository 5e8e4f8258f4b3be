import Registrar.Artifact.Source
import Registrar.Failure
import Registrar.Source.File

/-!
# The artifact

The registry that is generated for the candidates of a run. There is none for no candidates, and
none whose text is not a source file.
-/

namespace Registrar

/-- A rendered registry with the collisions among its keys. -/
structure Artifact where
  source : String
  collisions : List KeyCollision
  deriving DecidableEq, Repr

namespace Artifact

/-- The artifact for an aggregation, whose header tells the given instant. -/
def render (settings : ArtifactSettings) (aggregation : Aggregation) (instant : Instant) :
    Except Failure Artifact :=
  if aggregation.isEmpty then .error .emptyRegistry
  else
    let text := ArtifactSource.text settings aggregation instant
    if (Source.items? text).isSome then
      .ok ⟨String.ofList text, Candidate.collisions (Candidate.sorted aggregation.candidates)⟩
    else .error .renderedInvalid

end Artifact

end Registrar
