import Mathlib.Tactic.Common
import Reconcile.Proofs.Graph.Cycles
import Reconcile.Proofs.Graph.Edges
import Reconcile.Proofs.Graph.Order
import Reconcile.Proofs.Stack.Deletion

/-!
# Resources in order of deletion

The recorded resources that have to go are listed once each, whatever became of the recorded template.
When that has a graph without cycles, dependents are listed before what they depend on, and what the
template does not declare is listed at the end.
-/

namespace Reconcile.StackState

variable {previous : StackState} {desired : Template} {excluded order : List String} {graph : Graph} {id : String}

/-- Resources are removed in a graph of the recorded ones: dependents go first, and what is no node last. -/
structure RemovedIn (previous : StackState) (graph : Graph) (order : List String) : Prop where
  /-- What a resource depends on, directly or through other ones, goes after it. -/
  after : ∀ earlier id later, order = earlier ++ id :: later → ∀ other ∈ order, graph.Reaches id other → other ∈ later
  /-- What the recorded template does not declare goes last, as it was recorded. -/
  last : ∃ declared undeclared, order = declared ++ undeclared ∧ (∀ id ∈ declared, previous.template.isResource id)
    ∧ (∀ id ∈ undeclared, previous.template.isResource id = false) ∧ undeclared.Sublist previous.resources.names

/-- An order in which the recorded resources that have to go are removed. -/
structure Removed (previous : StackState) (desired : Template) (excluded order : List String) : Prop where
  nodup : order.Nodup
  /-- What is recorded goes when it is not declared any more, and also when it is excluded. -/
  mem_iff : ∀ id, id ∈ order
    ↔ previous.resources.contains id ∧ (desired.isResource id = false ∨ id ∈ excluded)
  /-- If the recorded template has a graph, and that no cycles, the order is that of the graph. -/
  ordered : ∀ graph, previous.template.graph = .ok graph → (∀ node, ¬ graph.Reaches node node) →
    previous.RemovedIn graph order

theorem isDoomed_iff :
  previous.isDoomed desired excluded id
    ↔ previous.resources.contains id ∧ (desired.isResource id = false ∨ id ∈ excluded)
  := by
  simp [isDoomed]

theorem recordedOrder_eq (built : previous.template.graph = .ok graph) (acyclic : graph.cyclicNodes = []) :
  previous.recordedOrder = graph.finishOrder
  := by
  rw [recordedOrder, built]
  dsimp only
  rw [Graph.topologicalOrder_eq_ok acyclic]

/-- What is listed at the end is what the recorded template does not declare. -/
theorem deletionOrder_eq_append (built : previous.template.graph = .ok graph) (acyclic : graph.cyclicNodes = []) :
  previous.deletionOrder desired excluded
    = graph.finishOrder.reverse.filter (previous.isDoomed desired excluded)
      ++ previous.resources.names.filter fun id =>
        previous.isDoomed desired excluded id && !previous.template.isResource id
  := by
  unfold deletionOrder
  rw [recordedOrder_eq built acyclic]
  dsimp only
  congr 1
  apply List.filter_congr
  intro id _
  by_cases doomed : previous.isDoomed desired excluded id
  · have listed : id ∈ graph.finishOrder.reverse.filter (previous.isDoomed desired excluded)
        ↔ previous.template.isResource id := by
      rw [List.mem_filter, List.mem_reverse, Graph.mem_finishOrder_iff, previous.template.mem_nodes_graph built]
      exact and_iff_left doomed
    rw [doomed, Bool.true_and, Bool.true_and, List.contains_eq_mem, Bool.decide_congr listed, Bool.decide_coe]
  · rw [Bool.not_eq_true] at doomed
    rw [doomed, Bool.false_and, Bool.false_and]

/-- No resource that is listed depends on one that is listed before it. -/
theorem pairwise_deletionOrder (built : previous.template.graph = .ok graph) (acyclic : graph.cyclicNodes = []) :
  (previous.deletionOrder desired excluded).Pairwise fun earlier later => ¬ graph.Reaches later earlier
  := by
  rw [deletionOrder_eq_append built acyclic]
  -- What is no node depends on nothing.
  have free {id other : String} (undeclared : id ∈ previous.resources.names.filter fun id =>
      previous.isDoomed desired excluded id && !previous.template.isResource id) : ¬ graph.Reaches id other := by
    intro reaches
    obtain ⟨_, edge, -⟩ := Relation.TransGen.head'_iff.mp reaches
    have declared := (previous.template.mem_nodes_graph built id).mp (graph.source_mem _ edge)
    simp [declared] at undeclared
  apply List.pairwise_append.mpr
  refine ⟨?_, ?_, fun _ _ later hl => free hl⟩
  · apply List.Pairwise.filter
    apply List.pairwise_reverse.mpr
    exact (Graph.ordered_finishOrder acyclic).pairwise graph.nodup_finishOrder
  · apply List.pairwise_of_forall_mem_list
    exact fun _ _ later hl => free hl

theorem removedIn_deletionOrder (built : previous.template.graph = .ok graph) (acyclic : graph.cyclicNodes = []) :
  previous.RemovedIn graph (previous.deletionOrder desired excluded)
  := by
  constructor
  · intro earlier id later split other ho reaches
    have distinct : other ≠ id := by
      rintro rfl
      have cyclic := Graph.mem_cyclicNodes.mpr reaches
      rw [acyclic] at cyclic
      cases cyclic
    have pairwise : (previous.deletionOrder desired excluded).Pairwise _ := pairwise_deletionOrder built acyclic
    rw [split] at pairwise ho
    exact mem_after_of_pairwise pairwise ho distinct (not_not_intro reaches)
  · refine ⟨_, _, deletionOrder_eq_append built acyclic, ?_, ?_, List.filter_sublist⟩
    · intro id hid
      rw [← previous.template.mem_nodes_graph built, ← Graph.mem_finishOrder_iff, ← List.mem_reverse]
      exact List.mem_of_mem_filter hid
    · intro id hid
      simpa using (Bool.and_eq_true_iff.mp (List.mem_filter.mp hid).2).2

/-- Whatever is recorded, declared and excluded, just what has to go is removed, in order. -/
theorem removed_deletionOrder (previous : StackState) (desired : Template) (excluded : List String) :
  previous.Removed desired excluded (previous.deletionOrder desired excluded)
  where
  nodup := previous.nodup_deletionOrder desired excluded
  mem_iff := fun _ => mem_deletionOrder.trans isDoomed_iff
  ordered := fun _ built acyclic => removedIn_deletionOrder built (Graph.cyclicNodes_eq_nil_iff.mpr acyclic)

/-- Two resources that are still declared and one that never was, recorded the other way round. -/
def strayed : StackState :=
  { template := .chained
    resources := .ofList [("Stray", { type := "T" }), ("Base", { type := "T" }), ("Top", { type := "T" })] }

/-- What depends on another one goes before it, and what no template declares goes last. -/
theorem removed_strayed :
  (∃ graph, strayed.template.graph = .ok graph ∧ (∀ node, ¬ graph.Reaches node node) ∧ graph.Reaches "Top" "Base")
    ∧ strayed.Removed .chained ["Base", "Ghost", "Top", "Base"] ["Top", "Base", "Stray"]
  := by
  have order : strayed.deletionOrder .chained ["Base", "Ghost", "Top", "Base"] = ["Top", "Base", "Stray"] := by cbv
  have removed := strayed.removed_deletionOrder .chained ["Base", "Ghost", "Top", "Base"]
  rw [order] at removed
  have built : strayed.template.graph = .ok ((Graph.ofNodes ["Base", "Top"]).addEdge "Top" "Base") := by cbv
  have acyclic : ((Graph.ofNodes ["Base", "Top"]).addEdge "Top" "Base").cyclicNodes = [] := by cbv
  have edge : ("Top", "Base") ∈ ((Graph.ofNodes ["Base", "Top"]).addEdge "Top" "Base").edges := by decide
  exact ⟨⟨_, built, Graph.cyclicNodes_eq_nil_iff.mp acyclic, .single edge⟩, removed⟩

end Reconcile.StackState
