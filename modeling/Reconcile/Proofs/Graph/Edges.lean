import Mathlib.Tactic.Common
import Reconcile.Graph.OfTemplate
import Reconcile.Proofs.Outcome

/-!
# Edges of the graph of a template

The graph of a template has the declared resources as nodes, and an edge from a resource to
each of its targets.  It can be built precisely when every target is declared.
-/

namespace Reconcile

/-! ### Alphabetical order -/

theorem pairwise_alphabetical (names : List String) :
  (alphabetical names).Pairwise (· ≤ ·)
  := by
  have sorted := @List.pairwise_mergeSort String (fun a b => decide (a ≤ b))
    (fun a b c hab hbc => by simpa using String.le_trans (of_decide_eq_true hab) (of_decide_eq_true hbc))
    (fun a b => by simpa using String.le_total a b) names
  simpa [alphabetical] using sorted

/-- Different names in alphabetical order rise. -/
theorem pairwise_lt_alphabetical {names : List String} (nodup : names.Nodup) :
  (alphabetical names).Pairwise (· < ·)
  := by
  have different : (alphabetical names).Nodup := (List.mergeSort_perm names _).nodup_iff.mpr nodup
  apply (pairwise_alphabetical names).imp₂ _ different
  intro a b le ne
  exact Std.lt_of_le_of_ne le ne

/-! ### Edges of graphs -/

namespace Graph

@[simp]
theorem edges_addNode (graph : Graph) (name : String) :
  (graph.addNode name).edges = graph.edges
  := by
  unfold addNode
  split
  · rfl
  · rfl

theorem nodes_addEdge (graph : Graph) (source target : String) :
  (graph.addEdge source target).nodes = ((graph.addNode source).addNode target).nodes
  := by
  unfold addEdge
  dsimp only
  split
  · rfl
  · rfl

theorem mem_nodes_addEdge (graph : Graph) (source target node : String) :
  node ∈ (graph.addEdge source target).nodes ↔ node ∈ graph.nodes ∨ node = source ∨ node = target
  := by
  rw [nodes_addEdge, mem_nodes_addNode, mem_nodes_addNode, or_assoc]

theorem edges_addEdge (graph : Graph) (source target : String) :
  (graph.addEdge source target).edges
    = if (source, target) ∈ graph.edges then graph.edges else graph.edges ++ [(source, target)]
  := by
  have h : ((graph.addNode source).addNode target).edges = graph.edges := by
    rw [edges_addNode, edges_addNode]
  unfold addEdge
  simp only [h]
  split
  · exact h
  · rfl

theorem mem_edges_addEdge (graph : Graph) (source target : String) (edge : String × String) :
  edge ∈ (graph.addEdge source target).edges ↔ edge ∈ graph.edges ∨ edge = (source, target)
  := by
  rw [edges_addEdge]
  split
  · next present =>
    constructor
    · exact .inl
    · rintro (h | rfl)
      · apply h
      · apply present
  · rw [List.mem_append, List.mem_singleton]

theorem mem_nodes_foldl_addNode (names : List String) (graph : Graph) (node : String) :
  node ∈ (names.foldl addNode graph).nodes ↔ node ∈ graph.nodes ∨ node ∈ names
  := by
  induction names generalizing graph with
  | nil => simp
  | cons name rest ih =>
    rw [List.foldl_cons, ih, mem_nodes_addNode, List.mem_cons, or_assoc]

theorem edges_foldl_addNode (names : List String) (graph : Graph) :
  (names.foldl addNode graph).edges = graph.edges
  := by
  induction names generalizing graph with
  | nil => rfl
  | cons name rest ih => rw [List.foldl_cons, ih, edges_addNode]

@[simp]
theorem mem_nodes_ofNodes (names : List String) (node : String) :
  node ∈ (ofNodes names).nodes ↔ node ∈ names
  := by
  rw [ofNodes, mem_nodes_foldl_addNode]
  simp [empty]

@[simp]
theorem edges_ofNodes (names : List String) :
  (ofNodes names).edges = []
  := edges_foldl_addNode names empty

theorem mem_dependencies {graph : Graph} {source target : String} :
  target ∈ graph.dependencies source ↔ (source, target) ∈ graph.edges
  := by
  rw [dependencies, mem_alphabetical, mem_successors]

theorem mem_dependents {graph : Graph} {source target : String} :
  source ∈ graph.dependents target ↔ (source, target) ∈ graph.edges
  := by
  rw [dependents, mem_alphabetical, mem_predecessors]

/-- Dependents come in alphabetical order. -/
theorem pairwise_dependents (graph : Graph) (name : String) :
  (graph.dependents name).Pairwise (· ≤ ·)
  := pairwise_alphabetical _

end Graph

namespace Template

variable (template : Template)

/-! ### The targets of one resource -/

theorem addTargets_spec {logicalId : String} {targets : List String} {graph graph' : Graph}
    (h : template.addTargets logicalId targets graph = .ok graph') :
  (∀ target ∈ targets, template.isResource target)
    ∧ ∀ edge, edge ∈ graph'.edges ↔ edge ∈ graph.edges ∨ edge.1 = logicalId ∧ edge.2 ∈ targets
  := by
  induction targets generalizing graph with
  | nil =>
    cases h
    simp
  | cons target rest ih =>
    simp only [addTargets] at h
    split at h
    · next declared =>
      obtain ⟨hd, he⟩ := ih h
      constructor
      · simpa using ⟨declared, hd⟩
      · intro edge
        rw [he, Graph.mem_edges_addEdge, List.mem_cons, Prod.ext_iff]
        tauto
    · cases h

theorem exists_addTargets {logicalId : String} {targets : List String} (graph : Graph)
    (h : ∀ target ∈ targets, template.isResource target) :
  ∃ graph', template.addTargets logicalId targets graph = .ok graph'
  := by
  induction targets generalizing graph with
  | nil => exact ⟨graph, rfl⟩
  | cons target rest ih =>
    simp only [addTargets, h target (by simp), if_true]
    apply ih
    intro other ho
    apply h other (List.mem_cons_of_mem _ ho)

theorem mem_nodes_addTargets {logicalId : String} {targets : List String} {graph graph' : Graph}
    (h : template.addTargets logicalId targets graph = .ok graph') (hl : logicalId ∈ graph.nodes)
    (hr : ∀ node, template.isResource node → node ∈ graph.nodes) (node : String) :
  node ∈ graph'.nodes ↔ node ∈ graph.nodes
  := by
  induction targets generalizing graph with
  | nil =>
    cases h
    rfl
  | cons target rest ih =>
    simp only [addTargets] at h
    split at h
    · next declared =>
      have step : ∀ node, node ∈ (graph.addEdge logicalId target).nodes ↔ node ∈ graph.nodes := by
        intro node
        rw [Graph.mem_nodes_addEdge]
        constructor
        · rintro (hn | rfl | rfl)
          · apply hn
          · apply hl
          · apply hr _ declared
        · exact .inl
      rw [ih h ((step _).mpr hl) fun node hn => (step node).mpr (hr node hn), step]
    · cases h

/-! ### The targets of all resources -/

theorem addResources_spec {entries : List (String × Resource)} {graph graph' : Graph}
    (h : template.addResources entries graph = .ok graph') :
  (∀ entry ∈ entries, ∀ target ∈ template.targets entry.2, template.isResource target)
    ∧ ∀ edge, edge ∈ graph'.edges
        ↔ edge ∈ graph.edges ∨ ∃ resource, (edge.1, resource) ∈ entries ∧ edge.2 ∈ template.targets resource
  := by
  induction entries generalizing graph with
  | nil =>
    cases h
    simp
  | cons entry rest ih =>
    obtain ⟨logicalId, resource⟩ := entry
    obtain ⟨middle, hm, h⟩ := Except.bind_eq_ok.mp h
    obtain ⟨hd, he⟩ := template.addTargets_spec hm
    obtain ⟨hds, hes⟩ := ih h
    constructor
    · rintro entry (_ | ⟨_, hm⟩)
      · apply hd
      · apply hds entry hm
    · rintro ⟨source, target⟩
      rw [hes, he]
      simp only [List.mem_cons, Prod.mk.injEq]
      constructor
      · rintro ((hg | ⟨rfl, ht⟩) | ⟨other, hm, ht⟩)
        · exact .inl hg
        · exact .inr ⟨resource, .inl ⟨rfl, rfl⟩, ht⟩
        · exact .inr ⟨other, .inr hm, ht⟩
      · rintro (hg | ⟨other, ⟨rfl, rfl⟩ | hm, ht⟩)
        · exact .inl (.inl hg)
        · exact .inl (.inr ⟨rfl, ht⟩)
        · exact .inr ⟨other, hm, ht⟩

theorem exists_addResources {entries : List (String × Resource)} (graph : Graph)
    (h : ∀ entry ∈ entries, ∀ target ∈ template.targets entry.2, template.isResource target) :
  ∃ graph', template.addResources entries graph = .ok graph'
  := by
  induction entries generalizing graph with
  | nil => exact ⟨graph, rfl⟩
  | cons entry rest ih =>
    obtain ⟨logicalId, resource⟩ := entry
    obtain ⟨middle, hm⟩ :=
      template.exists_addTargets graph (h (logicalId, resource) List.mem_cons_self)
    obtain ⟨graph', hg⟩ := ih middle fun other ho => h other (List.mem_cons_of_mem _ ho)
    use graph'
    apply Except.bind_eq_ok.mpr ⟨middle, hm, hg⟩

theorem mem_nodes_addResources {entries : List (String × Resource)} {graph graph' : Graph}
    (h : template.addResources entries graph = .ok graph')
    (hl : ∀ entry ∈ entries, entry.1 ∈ graph.nodes)
    (hr : ∀ node, template.isResource node → node ∈ graph.nodes) (node : String) :
  node ∈ graph'.nodes ↔ node ∈ graph.nodes
  := by
  induction entries generalizing graph with
  | nil =>
    cases h
    rfl
  | cons entry rest ih =>
    obtain ⟨logicalId, resource⟩ := entry
    obtain ⟨middle, hm, h⟩ := Except.bind_eq_ok.mp h
    have step := template.mem_nodes_addTargets hm (hl (logicalId, resource) List.mem_cons_self) hr
    rw [ih h, step]
    · intro entry he
      exact (step _).mpr (hl entry (List.mem_cons_of_mem _ he))
    · intro node hn
      exact (step node).mpr (hr node hn)

/-! ### The graph of a template -/

variable {template}

/-- A template has a graph when every target of a resource is declared. -/
theorem exists_graph
    (h : ∀ logicalId resource, template.resources.get? logicalId = some resource →
      ∀ target ∈ template.targets resource, template.isResource target) :
  ∃ graph, template.graph = .ok graph
  := by
  apply exists_addResources
  rintro ⟨logicalId, resource⟩ hm
  apply h logicalId resource ((template.resources.get?_eq_some_iff _ _).mpr hm)

/-- Then every target is declared. -/
theorem isResource_of_mem_targets {graph : Graph} (h : template.graph = .ok graph)
    {logicalId : String} {resource : Resource} (hr : template.resources.get? logicalId = some resource)
    {target : String} (ht : target ∈ template.targets resource) :
  template.isResource target
  := (template.addResources_spec h).1 _ ((template.resources.get?_eq_some_iff _ _).mp hr) target ht

/-- The edges of a graph of a template lead from resources to their targets. -/
theorem mem_edges_graph {graph : Graph} (h : template.graph = .ok graph) (source target : String) :
  (source, target) ∈ graph.edges
    ↔ ∃ resource, template.resources.get? source = some resource ∧ target ∈ template.targets resource
  := by
  rw [(template.addResources_spec h).2]
  simp [Table.get?_eq_some_iff]

/-- The nodes of a graph of a template are its resources. -/
theorem mem_nodes_graph {graph : Graph} (h : template.graph = .ok graph) (node : String) :
  node ∈ graph.nodes ↔ template.isResource node
  := by
  rw [template.mem_nodes_addResources h, Graph.mem_nodes_ofNodes, isResource, Table.contains_iff]
  · rintro entry he
    rw [Graph.mem_nodes_ofNodes]
    apply List.mem_map.mpr ⟨entry, he, rfl⟩
  · intro node hn
    rwa [Graph.mem_nodes_ofNodes, ← Table.contains_iff]

/-- An acyclic graph of a template is its graph, and has no cyclic nodes. -/
theorem acyclicGraph_eq_ok {graph : Graph} :
  template.acyclicGraph = .ok graph ↔ template.graph = .ok graph ∧ graph.cyclicNodes = []
  := by
  unfold acyclicGraph
  constructor
  · intro h
    obtain ⟨built, hb, h⟩ := Except.bind_eq_ok.mp h
    obtain ⟨_, hc, ⟨⟩⟩ := Except.bind_eq_ok.mp h
    refine ⟨hb, ?_⟩
    unfold Graph.detectCycles at hc
    split at hc
    · assumption
    · cases hc
  · rintro ⟨hb, hc⟩
    apply Except.bind_eq_ok.mpr
    refine ⟨graph, hb, Except.bind_eq_ok.mpr ⟨(), ?_, rfl⟩⟩
    rw [Graph.detectCycles, hc]

end Template

end Reconcile
