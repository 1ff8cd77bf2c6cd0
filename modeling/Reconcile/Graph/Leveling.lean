import Reconcile.Graph.Reachability

/-!
# Levels

A depth-first walk gives every node a level, one more than the greatest level among its
dependencies, and numbers the nodes in the order in which the walk enters them and in the
order in which it leaves them.
-/

namespace Reconcile

/-- The place of a node in a leveling. -/
structure NodeOrder where
  /-- The length of the longest chain of dependencies that ends at the node, itself included. -/
  level : Nat
  /-- The number of nodes entered before it. -/
  pre : Nat
  /-- The number of nodes left before it. -/
  post : Nat
  deriving DecidableEq, Repr, Inhabited

/-- The places of the nodes of a graph, in the order in which a walk leaves them. -/
structure Leveling where
  ordered : List (String × NodeOrder) := []
  deriving DecidableEq, Repr, Inhabited

namespace Leveling

/-- The place of a node. -/
def get? (leveling : Leveling) (node : String) : Option NodeOrder := lookup node leveling.ordered

/-- The number of nodes. -/
def size (leveling : Leveling) : Nat := leveling.ordered.length

/-- Whether there are no nodes. -/
def isEmpty (leveling : Leveling) : Bool := leveling.ordered.isEmpty

/-- The greatest level. -/
def height (leveling : Leveling) : Nat :=
  leveling.ordered.foldl (fun height entry => max height entry.2.level) 0

/-- The nodes grouped by level, each group in the order in which the walk leaves them. -/
def levels (leveling : Leveling) : List (List String) :=
  (List.range leveling.height).map fun below =>
    (leveling.ordered.filter fun entry => entry.2.level == below + 1).map (·.1)

end Leveling

namespace Graph

/-- A walk so far: the nodes it has left and the number of those it has entered. -/
structure Walk where
  done : List (String × NodeOrder) := []
  entered : Nat := 0

mutual

/-- Visit a node, which is either done, or free, or being visited, in which case there is a cycle.
The level of the node and the walk after the visit. -/
def visit (graph : Graph) (free : List String) (node : String) (walk : Walk) : Option (Nat × Walk) :=
  match lookup node walk.done with
  | some order => some (order.level, walk)
  | none =>
    if node ∈ free then
      match visitAll graph (free.erase node) (graph.dependencies node) ⟨walk.done, walk.entered + 1⟩ with
      | none => none
      | some (below, after) =>
        let order := ⟨below + 1, walk.entered, after.done.length⟩
        some (below + 1, ⟨after.done ++ [(node, order)], after.entered⟩)
    else none
termination_by (free.length, 0)
decreasing_by
  apply Prod.Lex.left
  apply length_filter_erase_lt
  assumption

/-- Visit some nodes in turn; the greatest of their levels and the walk after the visits. -/
def visitAll (graph : Graph) (free : List String) (nodes : List String) (walk : Walk) :
    Option (Nat × Walk) :=
  match nodes with
  | [] => some (0, walk)
  | node :: rest =>
    match visit graph free node walk with
    | none => none
    | some (level, walk) =>
      match visitAll graph free rest walk with
      | none => none
      | some (below, walk) => some (max level below, walk)
termination_by (free.length, nodes.length + 1)

end

/-- The leveling of a walk that begins at some nodes in turn. -/
def levelFrom (graph : Graph) (nodes : List String) : Except StackError Leveling :=
  match graph.visitAll graph.nodes nodes {} with
  | some (_, walk) => .ok ⟨walk.done⟩
  | none => .error (.circularDependency graph.cyclicNodes)

/-- The leveling of a graph.  An improved one comes of a second walk, which begins at the nodes that
the first walk left last, so that dependencies stay close to their dependents. -/
def level (graph : Graph) (improved : Bool) : Except StackError Leveling := do
  let first ← graph.levelFrom graph.nodes
  if improved then graph.levelFrom (first.ordered.map (·.1)).reverse else return first

end Graph

end Reconcile
