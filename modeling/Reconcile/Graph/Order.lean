import Reconcile.Graph.Reachability

/-!
# Topological order

The order in which a depth-first search with an explicit stack finishes the nodes: whatever
a node depends on is finished before it.  The search begins at the nodes in order of addition
and follows the edges of a node in order of addition.
-/

namespace Reconcile.Graph

/-- Go on with a search: `undiscovered` are the nodes not met so far, `finished` those that are done.
A node on top of the stack is discovered when it is met for the first time, and finished when all
that it depends on is. -/
def search (graph : Graph) (undiscovered finished : List String) : List String → List String
  | [] => finished
  | top :: stack =>
    if top ∈ undiscovered then
      let undiscovered' := undiscovered.erase top
      let next := (graph.successors top).filter (undiscovered'.contains ·)
      search graph undiscovered' finished (next ++ top :: stack)
    else
      search graph undiscovered (if finished.contains top then finished else finished ++ [top]) stack
termination_by stack => (undiscovered.length, stack.length)
decreasing_by
  · apply Prod.Lex.left
    apply length_filter_erase_lt
    assumption
  · apply Prod.Lex.right
    simp

/-- The nodes in the order in which a search finishes them. -/
def finishOrder (graph : Graph) : List String := graph.search graph.nodes [] graph.nodes

/-- The nodes ordered so that dependencies come first; there is no such order when there are cycles. -/
def topologicalOrder (graph : Graph) : Except StackError (List String) := do
  graph.detectCycles
  return graph.finishOrder

end Reconcile.Graph
