import Reconcile.Graph.OfTemplate
import Reconcile.Graph.Order
import Reconcile.State.Basic

/-!
# Order of deletion

The recorded resources that have to go, dependents before what they depend on.
-/

namespace Reconcile.StackState

/-- The recorded resources that a template does not declare. -/
def orphans (previous : StackState) (desired : Template) : List String :=
  previous.resources.names.filter fun logicalId => !desired.isResource logicalId

/-- Whether a recorded resource has to go: it is an orphan or excluded. -/
def isDoomed (previous : StackState) (desired : Template) (excluded : List String) (logicalId : String) : Bool :=
  previous.resources.contains logicalId && (!desired.isResource logicalId || excluded.contains logicalId)

/-- The logical ids of a state, dependencies first as far as the recorded template tells. -/
def recordedOrder (previous : StackState) : List String :=
  match previous.template.graph with
  | .ok graph =>
    match graph.topologicalOrder with
    | .ok order => order
    | .error _ => previous.resources.names
  | .error _ => previous.resources.names

/-- The recorded resources that have to go, in the order in which they may be deleted; those that the
recorded template does not declare come last. -/
def deletionOrder (previous : StackState) (desired : Template) (excluded : List String) : List String :=
  let ordered := previous.recordedOrder.reverse.filter (previous.isDoomed desired excluded)
  let rest := previous.resources.names.filter fun logicalId =>
    previous.isDoomed desired excluded logicalId && !ordered.contains logicalId
  ordered ++ rest

end Reconcile.StackState
