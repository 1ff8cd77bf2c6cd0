/-!
# Dependency graphs

A graph of names with an edge from each name to those it depends on.  Nodes and edges keep
the order in which they were first added, and none is there twice; both ends of every edge
are nodes.
-/

namespace Reconcile

/-- A graph of names. -/
structure Graph where
  /-- The nodes in order of first addition. -/
  nodes : List String
  /-- The edges in order of first addition, each from a name to one that it depends on. -/
  edges : List (String × String)
  nodup_nodes : nodes.Nodup
  nodup_edges : edges.Nodup
  source_mem : ∀ edge ∈ edges, edge.1 ∈ nodes
  target_mem : ∀ edge ∈ edges, edge.2 ∈ nodes

/-- Names in alphabetical order. -/
def alphabetical (names : List String) : List String := names.mergeSort fun a b => decide (a ≤ b)

@[simp]
theorem mem_alphabetical {names : List String} {name : String} :
  name ∈ alphabetical names ↔ name ∈ names
  := (List.mergeSort_perm names _).mem_iff

namespace Graph

/-- The graph without nodes. -/
def empty : Graph := ⟨[], [], by simp, by simp, by simp, by simp⟩

instance : Inhabited Graph := ⟨empty⟩

/-- Add a node, unless it is there. -/
def addNode (graph : Graph) (name : String) : Graph :=
  if h : name ∈ graph.nodes then graph
  else
    { graph with
      nodes := graph.nodes ++ [name]
      nodup_nodes := by
        rw [List.nodup_append]
        refine ⟨graph.nodup_nodes, by simp, ?_⟩
        intro a ha b hb
        rw [List.mem_singleton] at hb
        rintro rfl
        exact h (hb ▸ ha)
      source_mem := fun edge he => List.mem_append_left _ (graph.source_mem edge he)
      target_mem := fun edge he => List.mem_append_left _ (graph.target_mem edge he) }

theorem mem_nodes_addNode (graph : Graph) (name node : String) :
  node ∈ (graph.addNode name).nodes ↔ node ∈ graph.nodes ∨ node = name
  := by
  by_cases h : name ∈ graph.nodes
  · simp only [addNode, h, dif_pos]
    exact ⟨.inl, fun hn => hn.elim id fun e => e ▸ h⟩
  · simp [addNode, h]

/-- Add a dependency of one name on another, and both as nodes, unless they are there. -/
def addEdge (graph : Graph) (source target : String) : Graph :=
  let extended := (graph.addNode source).addNode target
  if h : (source, target) ∈ extended.edges then extended
  else
    { extended with
      edges := extended.edges ++ [(source, target)]
      nodup_edges := by
        rw [List.nodup_append]
        refine ⟨extended.nodup_edges, by simp, ?_⟩
        intro a ha b hb
        rw [List.mem_singleton] at hb
        rintro rfl
        exact h (hb ▸ ha)
      source_mem := by
        intro edge he
        rcases List.mem_append.mp he with he | he
        · exact extended.source_mem edge he
        · rw [List.mem_singleton.mp he]
          simp [extended, mem_nodes_addNode]
      target_mem := by
        intro edge he
        rcases List.mem_append.mp he with he | he
        · exact extended.target_mem edge he
        · rw [List.mem_singleton.mp he]
          simp [extended, mem_nodes_addNode] }

/-- The graph of some nodes without edges. -/
def ofNodes (names : List String) : Graph := names.foldl addNode empty

/-- Whether a name is a node. -/
def contains (graph : Graph) (name : String) : Bool := graph.nodes.contains name

/-- Whether there are no nodes. -/
def isEmpty (graph : Graph) : Bool := graph.nodes.isEmpty

/-- The names that a name depends on, in order of addition. -/
def successors (graph : Graph) (name : String) : List String :=
  (graph.edges.filter fun edge => edge.1 == name).map (·.2)

/-- The names that depend on a name, in order of addition. -/
def predecessors (graph : Graph) (name : String) : List String :=
  (graph.edges.filter fun edge => edge.2 == name).map (·.1)

theorem mem_successors {graph : Graph} {source target : String} :
  target ∈ graph.successors source ↔ (source, target) ∈ graph.edges
  := by
  simp only [successors, List.mem_map, List.mem_filter, beq_iff_eq]
  constructor
  · rintro ⟨⟨a, b⟩, ⟨hm, ha⟩, hb⟩
    simp only at ha hb
    rwa [← ha, ← hb]
  · intro h
    exact ⟨(source, target), ⟨h, rfl⟩, rfl⟩

theorem mem_predecessors {graph : Graph} {source target : String} :
  source ∈ graph.predecessors target ↔ (source, target) ∈ graph.edges
  := by
  simp only [predecessors, List.mem_map, List.mem_filter, beq_iff_eq]
  constructor
  · rintro ⟨⟨a, b⟩, ⟨hm, hb⟩, ha⟩
    simp only at ha hb
    rwa [← ha, ← hb]
  · intro h
    exact ⟨(source, target), ⟨h, rfl⟩, rfl⟩

/-- The names that a name depends on directly, in alphabetical order. -/
def dependencies (graph : Graph) (name : String) : List String := alphabetical (graph.successors name)

/-- The names that depend on a name directly, in alphabetical order. -/
def dependents (graph : Graph) (name : String) : List String := alphabetical (graph.predecessors name)

/-- Every node with its dependencies. -/
def adjacency (graph : Graph) : List (String × List String) :=
  graph.nodes.map fun node => (node, graph.dependencies node)

end Graph

end Reconcile
