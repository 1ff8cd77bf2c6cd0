import Mathlib.Data.Finset.Card
import Reconcile.Proofs.Graph.Edges

/-!
# Graphs made by additions

Nodes and edges are added to a graph, beginning with the one that has none, in any order and however often.  What the
views of the graph tell is what was added: the names in order of first mention, and each edge once.
-/

namespace Reconcile

/-- What can be added to a graph. -/
inductive Addition where
  | node (name : String)
  | edge (source target : String)
  deriving DecidableEq, Repr

namespace Addition

/-- The names that an addition mentions, in order. -/
def names : Addition → List String
  | .node name => [name]
  | .edge source target => [source, target]

/-- The edge that an addition is. -/
def edge? : Addition → Option (String × String)
  | .node _ => none
  | .edge source target => some (source, target)

theorem edge?_eq_some {addition : Addition} {source target : String} :
  addition.edge? = some (source, target) ↔ addition = .edge source target
  := by
  cases addition with
  | node name => simp [edge?]
  | edge first second => simp [edge?]

end Addition

/-! ### Lists without repetition -/

theorem eraseDups_concat {α : Type} [BEq α] [LawfulBEq α] (items : List α) (item : α) :
  (items ++ [item]).eraseDups = if item ∈ items.eraseDups then items.eraseDups else items.eraseDups ++ [item]
  := by
  rw [List.eraseDups_append]
  by_cases present : item ∈ items
  · simp [List.removeAll, present]
  · simp [List.removeAll, present, List.eraseDups_cons]

namespace Graph

/-- A graph with an addition. -/
def add (graph : Graph) : Addition → Graph
  | .node name => graph.addNode name
  | .edge source target => graph.addEdge source target

/-- The graph that some additions make. -/
def ofAdditions (additions : List Addition) : Graph := additions.foldl add empty

variable {graph : Graph}

/-! ### What one addition does -/

theorem nodes_addNode (graph : Graph) (name : String) :
  (graph.addNode name).nodes = if name ∈ graph.nodes then graph.nodes else graph.nodes ++ [name]
  := by
  unfold addNode
  split
  · rfl
  · rfl

theorem nodes_addNode_of_mentioned {names : List String} (h : graph.nodes = names.eraseDups) (name : String) :
  (graph.addNode name).nodes = (names ++ [name]).eraseDups
  := by
  rw [nodes_addNode, eraseDups_concat, h]

/-- The nodes are the names mentioned so far, and an addition mentions its names after them. -/
theorem nodes_add_of_mentioned {names : List String} (h : graph.nodes = names.eraseDups) (addition : Addition) :
  (graph.add addition).nodes = (names ++ addition.names).eraseDups
  := by
  cases addition with
  | node name => apply nodes_addNode_of_mentioned h
  | edge source target =>
    rw [add, nodes_addEdge, nodes_addNode_of_mentioned (nodes_addNode_of_mentioned h source), List.append_assoc]
    rfl

theorem mem_edges_add {addition : Addition} {edge : String × String} :
  edge ∈ (graph.add addition).edges ↔ edge ∈ graph.edges ∨ addition.edge? = some edge
  := by
  cases addition with
  | node name => simp [add, Addition.edge?]
  | edge source target =>
    rw [add, mem_edges_addEdge, Addition.edge?, Option.some.injEq]
    exact or_congr_right eq_comm

/-! ### What all additions do -/

theorem nodes_foldl_add {names : List String} (additions : List Addition) (h : graph.nodes = names.eraseDups) :
  (additions.foldl add graph).nodes = (names ++ additions.flatMap Addition.names).eraseDups
  := by
  induction additions generalizing graph names with
  | nil => simpa using h
  | cons addition rest ih =>
    rw [List.foldl_cons, ih (nodes_add_of_mentioned h addition), List.flatMap_cons, List.append_assoc]

theorem mem_edges_foldl_add (additions : List Addition) {edge : String × String} :
  edge ∈ (additions.foldl add graph).edges ↔ edge ∈ graph.edges ∨ edge ∈ additions.filterMap Addition.edge?
  := by
  induction additions generalizing graph with
  | nil => simp
  | cons addition rest ih =>
    rw [List.foldl_cons, ih, mem_edges_add, or_assoc, List.mem_filterMap, List.mem_filterMap]
    simp [or_and_right, exists_or]

theorem nodes_ofAdditions (additions : List Addition) :
  (ofAdditions additions).nodes = (additions.flatMap Addition.names).eraseDups
  := @nodes_foldl_add empty [] additions rfl

theorem mem_edges_ofAdditions {additions : List Addition} {edge : String × String} :
  edge ∈ (ofAdditions additions).edges ↔ edge ∈ additions.filterMap Addition.edge?
  := by
  rw [ofAdditions, mem_edges_foldl_add]
  simp [empty]

end Graph

/-! ### Neighbors -/

/-- The two ways along an edge. -/
inductive Direction where
  | outgoing
  | incoming

namespace Direction

variable {α : Type}

/-- The end of an edge at which a way along it begins. -/
def near : Direction → α × α → α
  | .outgoing => Prod.fst
  | .incoming => Prod.snd

/-- The end of an edge to which a way along it leads. -/
def far : Direction → α × α → α
  | .outgoing => Prod.snd
  | .incoming => Prod.fst

theorem edge_ext (direction : Direction) {edge edge' : α × α} (near : direction.near edge = direction.near edge')
    (far : direction.far edge = direction.far edge') :
  edge = edge'
  := by
  cases direction with
  | outgoing => exact Prod.ext near far
  | incoming => exact Prod.ext far near

end Direction

namespace Graph

variable {graph : Graph}

/-- The names that the edges which begin at a name lead to, one way or the other, in order of addition. -/
def neighbors (graph : Graph) (direction : Direction) (name : String) : List String :=
  (graph.edges.filter fun edge => direction.near edge == name).map direction.far

theorem nodup_neighbors (graph : Graph) (direction : Direction) (name : String) :
  (graph.neighbors direction name).Nodup
  := by
  apply List.Nodup.map_on _ (graph.nodup_edges.filter _)
  intro edge leads edge' leads' same
  simp only [List.mem_filter, beq_iff_eq] at leads leads'
  exact direction.edge_ext (leads.2.trans leads'.2.symm) same

/-- Both ends of an edge are nodes, so what is no node has no neighbors. -/
theorem neighbors_eq_nil (graph : Graph) (direction : Direction) {name : String} (h : name ∉ graph.nodes) :
  graph.neighbors direction name = []
  := by
  rw [neighbors, List.map_eq_nil_iff, List.filter_eq_nil_iff]
  intro edge leads same
  rw [beq_iff_eq] at same
  subst same
  cases direction with
  | outgoing => exact h (graph.source_mem edge leads)
  | incoming => exact h (graph.target_mem edge leads)

theorem pairwise_lt_dependencies (graph : Graph) (name : String) :
  (graph.dependencies name).Pairwise (· < ·)
  := pairwise_lt_alphabetical (graph.nodup_neighbors .outgoing name)

theorem pairwise_lt_dependents (graph : Graph) (name : String) :
  (graph.dependents name).Pairwise (· < ·)
  := pairwise_lt_alphabetical (graph.nodup_neighbors .incoming name)

/-! ### Views -/

theorem contains_iff {name : String} :
  graph.contains name ↔ name ∈ graph.nodes
  := List.contains_iff_mem

end Graph

/-- What can be seen of a graph. -/
structure Views where
  /-- The logical ids, in order. -/
  logicalIds : List String
  /-- Whether a name is a logical id. -/
  contains : String → Bool
  /-- What a name depends on directly. -/
  dependencies : String → List String
  /-- What depends on a name directly. -/
  dependents : String → List String
  edgeCount : Nat
  /-- The logical ids with what they depend on directly. -/
  adjacency : List (String × List String)

/-- What can be seen of a graph of names. -/
def Graph.views (graph : Graph) : Views where
  logicalIds := graph.nodes
  contains := graph.contains
  dependencies := graph.dependencies
  dependents := graph.dependents
  edgeCount := graph.edges.length
  adjacency := graph.adjacency

/-- Views that tell of some additions. -/
structure Views.Tell (views : Views) (additions : List Addition) : Prop where
  /-- The logical ids are the names mentioned, each once, in order of first mention. -/
  logicalIds : views.logicalIds = (additions.flatMap Addition.names).eraseDups
  contains : ∀ name, views.contains name ↔ name ∈ additions.flatMap Addition.names
  dependencies : ∀ source target, target ∈ views.dependencies source ↔ .edge source target ∈ additions
  dependents : ∀ source target, source ∈ views.dependents target ↔ .edge source target ∈ additions
  /-- Dependencies are sorted without repetition. -/
  dependencies_rise : ∀ name, (views.dependencies name).Pairwise (· < ·)
  dependents_rise : ∀ name, (views.dependents name).Pairwise (· < ·)
  /-- The edges are as many as there are different ones among the additions. -/
  edgeCount : views.edgeCount = (additions.filterMap Addition.edge?).toFinset.card
  adjacency : views.adjacency = views.logicalIds.map fun id => (id, views.dependencies id)

namespace Graph

theorem mem_ofAdditions_edges_iff {additions : List Addition} {source target : String} :
  (source, target) ∈ (ofAdditions additions).edges ↔ .edge source target ∈ additions
  := by
  rw [mem_edges_ofAdditions, List.mem_filterMap]
  simp only [Addition.edge?_eq_some, exists_eq_right]

theorem length_edges_ofAdditions (additions : List Addition) :
  (ofAdditions additions).edges.length = (additions.filterMap Addition.edge?).toFinset.card
  := by
  rw [← List.toFinset_card_of_nodup (ofAdditions additions).nodup_edges]
  congr 1
  ext edge
  rw [List.mem_toFinset, List.mem_toFinset, mem_edges_ofAdditions]

theorem tell_views_ofAdditions (additions : List Addition) :
  (ofAdditions additions).views.Tell additions where
  logicalIds := nodes_ofAdditions additions
  contains name := contains_iff.trans (by rw [nodes_ofAdditions, List.mem_eraseDups])
  dependencies source target := mem_dependencies.trans mem_ofAdditions_edges_iff
  dependents source target := mem_dependents.trans mem_ofAdditions_edges_iff
  dependencies_rise := pairwise_lt_dependencies _
  dependents_rise := pairwise_lt_dependents _
  edgeCount := length_edges_ofAdditions additions
  adjacency := rfl

/-- A name that depends on itself, and an edge that is added twice. -/
example :
    let graph := ofAdditions [.edge "B" "A", .node "A", .edge "B" "B", .edge "B" "A"]
    graph.nodes = ["B", "A"] ∧ graph.edges = [("B", "A"), ("B", "B")] := by
  decide

end Graph

end Reconcile
