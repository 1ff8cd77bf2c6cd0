import Reconcile.Evaluation.Error
import Reconcile.State.Basic

/-!
# Resolutions

An evaluation reports what it depended on.  A dependency that was available is resolved; one
that was not is unresolved, and the value can only be realized once there is none of those.
What an evaluation needs to know beyond the template is a bundle of capabilities, each of
which may be lacking.
-/

namespace Reconcile

/-- Something an evaluation depended on. -/
inductive Dependency where
  | parameter (name : String)
  | pseudoParameter (name : String)
  | condition (name : String)
  | resource (logicalId : String)
  deriving DecidableEq, Repr, Inhabited

namespace Dependency

/-- The dependency in words. -/
def text : Dependency → String
  | .parameter name => "parameter " ++ name
  | .pseudoParameter name => "pseudo-parameter " ++ name
  | .condition name => "condition " ++ name
  | .resource logicalId => "resource " ++ logicalId

/-- The place of the kind of a dependency among the kinds. -/
def rank : Dependency → Nat
  | .parameter _ => 0
  | .pseudoParameter _ => 1
  | .condition _ => 2
  | .resource _ => 3

/-- The name a dependency has within its kind. -/
def name : Dependency → String
  | .parameter name | .pseudoParameter name | .condition name | .resource name => name

/-- The order of dependencies: by kind, then by name. -/
def le (d e : Dependency) : Bool := d.rank < e.rank || d.rank == e.rank && decide (d.name ≤ e.name)

/-- The logical id of a dependency on a resource. -/
def logicalId? : Dependency → Option String
  | .resource logicalId => some logicalId
  | _ => none

end Dependency

/-- Dependencies in order and without repetition. -/
def arranged (dependencies : List Dependency) : List Dependency :=
  dependencies.eraseDups.mergeSort Dependency.le

/-- The dependencies that an evaluation met, in the order in which it met them. -/
structure Footprint where
  resolved : List Dependency := []
  unresolved : List Dependency := []
  deriving DecidableEq, Repr, Inhabited

/-- The dependencies of one evaluation followed by those of another. -/
def Footprint.append (first second : Footprint) : Footprint :=
  ⟨first.resolved ++ second.resolved, first.unresolved ++ second.unresolved⟩

/-- The outcome of evaluating an expression. -/
structure Resolution where
  value : Option Json
  resolved : List Dependency
  unresolved : List Dependency
  deriving Inhabited

namespace Resolution

/-- Whether every dependency was available. -/
def isResolved (r : Resolution) : Bool := r.unresolved.isEmpty

/-- The logical ids among the unresolved dependencies. -/
def unresolvedResources (r : Resolution) : List String := r.unresolved.filterMap Dependency.logicalId?

/-- The value, unless a dependency is unresolved. -/
def realize (r : Resolution) : Except EvaluationError Json :=
  match r.value, r.unresolved with
  | some value, [] => .ok value
  | _, _ => .error (.unresolvedAccess (r.unresolved.map Dependency.text))

end Resolution

/-- The availability of a resource. -/
inductive Availability where
  | available (resource : PhysicalResource)
  /-- It may become available later. -/
  | pending
  /-- Its condition is false, so it will never be available. -/
  | excluded
  deriving Inhabited

/-- What is known of resources. -/
structure ResourceView where
  /-- The availability of a declared resource. -/
  availability : String → Availability
  /-- The attribute that a reference to a resource of a type has as its value, if not the physical id. -/
  refAttribute : String → Option String := fun _ => none

/-- What an evaluation may ask for; a capability that is lacking leaves its dependencies unresolved. -/
structure Capabilities where
  parameters : Option (String → Option Json) := none
  conditions : Option (String → Except EvaluationError Bool) := none
  pseudoParameters : Option (String → Option Json) := none
  resources : Option ResourceView := none

end Reconcile
