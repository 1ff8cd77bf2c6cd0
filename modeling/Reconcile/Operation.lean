import Reconcile.Evaluation.Resolution
import Reconcile.Patch

/-!
# Operations

What is to be done to a resource, decided from its desired properties and the physical
resource that is recorded for it.
-/

namespace Reconcile

/-- What is to be done to a resource. -/
inductive Operation where
  | create
  | update
  | skip
  /-- The desired properties are not known yet, but they are described as before. -/
  | maybeUpdate
  deriving DecidableEq, Repr, Inhabited

/-- The name of an operation. -/
def Operation.name : Operation → String
  | .create => "CREATE"
  | .update => "UPDATE"
  | .skip => "SKIP"
  | .maybeUpdate => "MAYBE_UPDATE"

/-- A decision, with the differences between the recorded and the desired properties, as far as
these are known. -/
structure Decision where
  operation : Operation
  patch : Patch := []

/-- Decide what to do to a resource.  While its properties are unresolved their fingerprint decides;
then they are compared with those that are recorded. -/
def Decision.ofResolution (previous : Option PhysicalResource) (hash : String) (resolution : Resolution) :
    Except EvaluationError Decision := do
  match previous with
  | none => return { operation := .create }
  | some previous =>
    if resolution.isResolved then
      let desired ← resolution.realize
      let patch := previous.inputProperties.diff desired
      return { operation := if patch.isEmpty then .skip else .update, patch }
    else return { operation := if previous.propertiesHash = some hash then .maybeUpdate else .update }

end Reconcile
