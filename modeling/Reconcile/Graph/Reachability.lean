import Reconcile.Error.Basic
import Reconcile.Graph.Basic

/-!
# Reachability and cycles

What a name depends on directly or through other names, and which names depend on themselves
in this way.  Names that depend on each other form a component.
-/

namespace Reconcile.Graph

theorem length_filter_erase_lt {names : List String} {name : String} (h : name ∈ names) :
  (names.erase name).length < names.length
  := by
  rw [List.length_erase_of_mem h]
  have := List.length_pos_of_mem h
  omega

/-- Follow the dependencies of every name in a queue; `unseen` are the names not met so far and
`seen` those met, in order. -/
def explore (graph : Graph) (unseen seen : List String) : List String → List String
  | [] => seen
  | name :: queue =>
    match _found : (graph.successors name).find? (unseen.contains ·) with
    | some next => explore graph (unseen.erase next) (seen ++ [next]) (name :: queue ++ [next])
    | none => explore graph unseen seen queue
termination_by queue => (unseen.length, queue.length)
decreasing_by
  · apply Prod.Lex.left
    apply length_filter_erase_lt
    simpa using List.find?_some _found
  · apply Prod.Lex.right
    simp

/-- What a name depends on directly or through other names, in the order in which it is met. -/
def closure (graph : Graph) (name : String) : List String := graph.explore graph.nodes [] [name]

/-- What a name depends on directly or through other names, in alphabetical order. -/
def transitiveDependencies (graph : Graph) (name : String) : List String :=
  alphabetical (graph.closure name)

/-- Every node with what it depends on directly or through other names. -/
def closures (graph : Graph) : List (String × List String) :=
  graph.nodes.map fun node => (node, graph.closure node)

/-- Of nodes with what they depend on, those that a node forms a component with: the names on which
it depends and which depend on it, and the node itself. -/
def component (closures : List (String × List String)) (node : String) (below : List String) : List String :=
  (closures.filter fun other => other.1 == node || below.contains other.1 && other.2.contains node).map (·.1)

/-- The nodes that lie on cycles, in alphabetical order: those with company in their component, and
those that depend on themselves. -/
def cyclicNodes (graph : Graph) : List String :=
  let closures := graph.closures
  let cyclic := closures.filter fun entry =>
    1 < (component closures entry.1 entry.2).length || graph.edges.contains (entry.1, entry.1)
  alphabetical (cyclic.map (·.1))

/-- Refuse a graph with cycles. -/
def detectCycles (graph : Graph) : Except StackError Unit :=
  match graph.cyclicNodes with
  | [] => .ok ()
  | cyclic => .error (.circularDependency cyclic)

end Reconcile.Graph
