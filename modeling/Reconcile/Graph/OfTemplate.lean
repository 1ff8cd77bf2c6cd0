import Reconcile.Expression.References
import Reconcile.Graph.Reachability
import Reconcile.Text.Distance

/-!
# Graphs of templates

The resources of a template with their dependencies: every resource that the properties of a
resource refer to, then those that it names as dependencies.
-/

namespace Reconcile

/-- Of some scored items, the first with the least score. -/
def firstLeast {α : Type} : List (α × Nat) → Option (α × Nat)
  | [] => none
  | item :: rest =>
    match firstLeast rest with
    | some best => if best.2 < item.2 then some best else some item
    | none => some item

/-- The candidate closest to a name, if its distance is at most half the number of bytes of the name. -/
def closestName (name : String) (candidates : List String) : Option String :=
  let scored := candidates.map fun candidate => (candidate, Text.distance name candidate)
  (firstLeast (scored.filter fun item => item.2 ≤ name.utf8ByteSize * 50 / 100)).map (·.1)

namespace Template

/-- The names that a resource depends on: those its properties mention, other than parameters and
pseudo-parameters, then those it lists. -/
def targets (template : Template) (resource : Resource) : List String :=
  let mentioned := ((resource.properties.map Expression.references).getD []).map Reference.name
  mentioned.filter (fun name => !(isPseudoParameter name || template.isParameter name))
    ++ resource.dependsOn

/-- Add the dependencies of a resource, each of which must be declared. -/
def addTargets (template : Template) (logicalId : String) :
    List String → Graph → Except StackError Graph
  | [], graph => .ok graph
  | target :: rest, graph =>
    if template.isResource target then
      template.addTargets logicalId rest (graph.addEdge logicalId target)
    else
      .error (.missingReference logicalId target
        (closestName target (template.resources.names ++ template.parameters.names)))

/-- Add the dependencies of some resources. -/
def addResources (template : Template) :
    List (String × Resource) → Graph → Except StackError Graph
  | [], graph => .ok graph
  | (logicalId, resource) :: rest, graph => do
    let graph ← template.addTargets logicalId (template.targets resource) graph
    template.addResources rest graph

/-- The dependency graph of a template, with or without cycles. -/
def graph (template : Template) : Except StackError Graph :=
  template.addResources template.resources.entries (Graph.ofNodes template.resources.names)

/-- The dependency graph of a template, without cycles. -/
def acyclicGraph (template : Template) : Except StackError Graph := do
  let graph ← template.graph
  graph.detectCycles
  return graph

end Template

end Reconcile
