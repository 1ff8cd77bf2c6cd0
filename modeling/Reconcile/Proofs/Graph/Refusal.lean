import Mathlib.Data.List.Permutation
import Mathlib.Tactic.Common
import Reconcile.Proofs.Graph.Order

/-!
# Refusal of cycles

Three algorithms look for cycles in a graph: the search for components, the search for a topological
order, and the walks of a leveling.  They refuse the same graphs, those in which a node depends on
itself, and report all nodes that do.  A template whose resources depend on resources only is refused
just when one of them depends on itself.
-/

namespace Reconcile

/-- A computation refuses the cycles of a relation between names: it succeeds when there are none, and
otherwise fails with the names that lie on one, sorted and without repetition. -/
structure RefusesCycles {α : Type} (needs : String → String → Prop) (outcome : Except StackError α) : Prop where
  accepts : (∀ name, ¬ Relation.TransGen needs name name) → ∃ result, outcome = .ok result
  refuses : (∃ name, Relation.TransGen needs name name) →
    ∃ names, outcome = .error (.circularDependency names) ∧ names.Pairwise (· < ·)
      ∧ ∀ name, name ∈ names ↔ Relation.TransGen needs name name

namespace Graph

variable {graph : Graph}

/-! ### Cyclic nodes -/

theorem mem_transitiveDependencies {source target : String} :
  target ∈ graph.transitiveDependencies source ↔ graph.Reaches source target
  := by
  rw [transitiveDependencies, mem_alphabetical, mem_closure]

/-- What a name depends on comes in alphabetical order, and nothing twice. -/
theorem pairwise_transitiveDependencies (graph : Graph) (source : String) :
  (graph.transitiveDependencies source).Pairwise (· < ·)
  := pairwise_lt_alphabetical (graph.nodup_closure source)

/-- The cyclic nodes come in alphabetical order, and none twice. -/
theorem pairwise_cyclicNodes (graph : Graph) :
  graph.cyclicNodes.Pairwise (· < ·)
  := by
  apply pairwise_lt_alphabetical
  apply graph.nodup_closures.sublist (List.filter_sublist.map _)

/-! ### The three algorithms -/

/-- To refuse the cycles of a graph is to fail with the cyclic nodes when there are any. -/
theorem refusesCycles_of {α : Type} {outcome : Except StackError α}
    (accepts : graph.cyclicNodes = [] → ∃ result, outcome = .ok result)
    (refuses : graph.cyclicNodes ≠ [] → outcome = .error (.circularDependency graph.cyclicNodes)) :
  RefusesCycles graph.Edge outcome
  where
  accepts acyclic := accepts (cyclicNodes_eq_nil_iff.mpr acyclic)
  refuses := by
    rintro ⟨node, cycle⟩
    refine ⟨graph.cyclicNodes, refuses ?_, graph.pairwise_cyclicNodes, fun name => mem_cyclicNodes⟩
    exact List.ne_nil_of_mem (mem_cyclicNodes.mpr cycle)

theorem detectCycles_of_acyclic (acyclic : graph.cyclicNodes = []) :
  graph.detectCycles = .ok ()
  := by
  unfold detectCycles
  rw [acyclic]

theorem detectCycles_of_cyclic (cyclic : graph.cyclicNodes ≠ []) :
  graph.detectCycles = .error (.circularDependency graph.cyclicNodes)
  := by
  unfold detectCycles
  split
  · next none => exact absurd none cyclic
  · rfl

theorem refusesCycles_detectCycles (graph : Graph) :
  RefusesCycles graph.Edge graph.detectCycles
  := refusesCycles_of (fun acyclic => ⟨(), detectCycles_of_acyclic acyclic⟩) detectCycles_of_cyclic

theorem refusesCycles_topologicalOrder (graph : Graph) :
  RefusesCycles graph.Edge graph.topologicalOrder
  := by
  apply refusesCycles_of
  · intro acyclic
    exact ⟨_, topologicalOrder_eq_ok acyclic⟩
  · intro cyclic
    rw [topologicalOrder, detectCycles_of_cyclic cyclic]
    rfl

/-- A walk that leaves all nodes has met no cycle: it leaves each after everything that the node depends on. -/
theorem acyclic_of_levelFrom {leveling : Leveling} (h : graph.levelFrom graph.nodes = .ok leveling) :
  graph.cyclicNodes = []
  := by
  obtain ⟨nodup, ordered, there, -⟩ := levelFrom_spec h
  apply cyclicNodes_eq_nil_iff.mpr
  intro node cycle
  obtain ⟨before, after, split⟩ := List.append_of_mem (there node cycle.mem_nodes)
  have earlier : node ∈ before := ordered.reaches split cycle
  rw [split] at nodup
  exact (List.nodup_append.mp nodup).2.2 node earlier node List.mem_cons_self rfl

theorem refusesCycles_level (graph : Graph) (improved : Bool) :
  RefusesCycles graph.Edge (graph.level improved)
  := by
  apply refusesCycles_of
  · intro acyclic
    exact exists_level acyclic improved
  · intro cyclic
    have refused : graph.levelFrom graph.nodes = .error (.circularDependency graph.cyclicNodes) := by
      cases begun : graph.levelFrom graph.nodes with
      | ok leveling => exact absurd (acyclic_of_levelFrom begun) cyclic
      | error error =>
        unfold levelFrom at begun
        split at begun
        · cases begun
        · cases begun
          rfl
    rw [level, refused]
    rfl

/-- A graph tells its cycles: the names that its nodes depend on are those that they reach, the cyclic nodes are
those that reach themselves, and every algorithm refuses the cycles. -/
structure TellsCycles (graph : Graph) : Prop where
  /-- What a name depends on is what it reaches by one edge or more. -/
  dependencies : ∀ source target, target ∈ graph.transitiveDependencies source ↔ graph.Reaches source target
  dependencies_sorted : ∀ source, (graph.transitiveDependencies source).Pairwise (· < ·)
  /-- The cyclic nodes are those among what they depend on. -/
  cyclic : ∀ node, node ∈ graph.cyclicNodes ↔ node ∈ graph.transitiveDependencies node
  cyclic_sorted : graph.cyclicNodes.Pairwise (· < ·)
  detects : RefusesCycles graph.Edge graph.detectCycles
  orders : RefusesCycles graph.Edge graph.topologicalOrder
  levels : ∀ improved, RefusesCycles graph.Edge (graph.level improved)

theorem tellsCycles (graph : Graph) :
  graph.TellsCycles
  where
  dependencies _ _ := mem_transitiveDependencies
  dependencies_sorted := graph.pairwise_transitiveDependencies
  cyclic _ := mem_cyclicNodes.trans mem_transitiveDependencies.symm
  cyclic_sorted := graph.pairwise_cyclicNodes
  detects := graph.refusesCycles_detectCycles
  orders := graph.refusesCycles_topologicalOrder
  levels := graph.refusesCycles_level

end Graph

/-! ### Graphs of templates -/

namespace Template

variable (template : Template)

/-- A resource of a template depends on a name. -/
def DependsOn (id target : String) : Prop :=
  ∃ resource, template.resources.get? id = some resource ∧ target ∈ template.targets resource

variable {template}

/-- The edges of the graph of a template are the dependencies of its resources. -/
theorem edge_eq_dependsOn {graph : Graph} (built : template.graph = .ok graph) :
  graph.Edge = template.DependsOn
  := by
  funext id target
  exact propext (mem_edges_graph built id target)

/-- A template whose resources depend on resources only is refused just for cycles. -/
theorem refusesCycles_acyclicGraph (declared : ∀ id target, template.DependsOn id target → template.isResource target) :
  RefusesCycles template.DependsOn template.acyclicGraph
  := by
  obtain ⟨graph, built⟩ := exists_graph fun id resource found target mentioned =>
    declared id target ⟨resource, found, mentioned⟩
  rw [← edge_eq_dependsOn built]
  apply Graph.refusesCycles_of
  · intro acyclic
    exact ⟨graph, acyclicGraph_eq_ok.mpr ⟨built, acyclic⟩⟩
  · intro cyclic
    apply Except.bind_eq_error.mpr
    refine .inr ⟨graph, built, Except.bind_eq_error.mpr (.inl ?_)⟩
    exact Graph.detectCycles_of_cyclic cyclic

end Template

/-- Every graph tells its cycles, and a template whose resources depend on resources only is refused just for
cycles. -/
theorem cycles_refused :
  (∀ graph : Graph, graph.TellsCycles)
    ∧ ∀ template : Template, (∀ id target, template.DependsOn id target → template.isResource target) →
        RefusesCycles template.DependsOn template.acyclicGraph
  := ⟨Graph.tellsCycles, fun _ => Template.refusesCycles_acyclicGraph⟩

/-- A template in which two resources depend on each other, one on itself, and one on a cycle that it is not on. -/
def Template.ringed : Template where
  resources := .ofList [
    ("D", { type := "T", properties := some (.object [("P", .ref "A")]) }),
    ("C", { type := "T", properties := some (.object [("P", .ref "C")]) }),
    ("B", { type := "T", dependsOn := ["A"] }),
    ("A", { type := "T", properties := some (.object [("P", .ref "B")]) })]

/-- It is refused, and all names on cycles are reported, others not. -/
theorem cycles_refused_ringed :
  (∀ id target, Template.ringed.DependsOn id target → Template.ringed.isResource target)
    ∧ Template.ringed.acyclicGraph = .error (.circularDependency ["A", "B", "C"])
    ∧ ∀ name, name ∈ ["A", "B", "C"] ↔ Relation.TransGen Template.ringed.DependsOn name name
  := by
  obtain ⟨graph, built⟩ : ∃ graph, Template.ringed.graph = .ok graph := ⟨_, rfl⟩
  have declared : ∀ id target, Template.ringed.DependsOn id target → Template.ringed.isResource target := by
    rintro id target ⟨resource, found, mentioned⟩
    exact Template.isResource_of_mem_targets built found mentioned
  have loop : Template.ringed.DependsOn "C" "C" := ⟨_, rfl, by decide⟩
  have reported : Template.ringed.acyclicGraph = .error (.circularDependency ["A", "B", "C"]) := by
    cbv
  obtain ⟨names, refused, -, lists⟩ := (cycles_refused.2 _ declared).refuses ⟨"C", .single loop⟩
  rw [reported] at refused
  cases refused
  exact ⟨declared, reported, lists⟩

end Reconcile
