import Mathlib.Data.List.Permutation
import Mathlib.Tactic.Common
import Reconcile.Graph.Order
import Reconcile.Proofs.Graph.Leveling

/-!
# Nodes in topological order

The search for a topological order finishes every node, and none twice.  When there are no cycles it
finishes each node after everything that the node depends on.
-/

namespace Reconcile.Graph

variable {graph : Graph} {undiscovered finished stack : List String} {name : String}

/-- What is on the stack of a search is finished in the end, and what has been finished stays. -/
theorem mem_search (h : name ∈ finished ∨ name ∈ stack) :
  name ∈ graph.search undiscovered finished stack
  := by
  induction undiscovered, finished, stack using search.induct graph with
  | case1 undiscovered finished =>
    rw [search]
    apply h.resolve_right List.not_mem_nil
  | case2 undiscovered finished top stack discovered undiscovered' next ih =>
    rw [search, if_pos discovered]
    apply ih
    obtain done | waiting := h
    · exact .inl done
    · exact .inr (List.mem_append_right _ waiting)
  | case3 undiscovered finished top stack discovered ih =>
    rw [search, if_neg discovered]
    apply ih
    split
    · next known =>
      obtain done | waiting := h
      · exact .inl done
      · obtain rfl | waiting := List.mem_cons.mp waiting
        · exact .inl (by simpa using known)
        · exact .inr waiting
    · obtain done | waiting := h
      · exact .inl (List.mem_append_left _ done)
      · obtain rfl | waiting := List.mem_cons.mp waiting
        · exact .inl (List.mem_append_right _ List.mem_cons_self)
        · exact .inr waiting

theorem nodup_search (h : finished.Nodup) :
  (graph.search undiscovered finished stack).Nodup
  := by
  induction undiscovered, finished, stack using search.induct graph with
  | case1 undiscovered finished =>
    rw [search]
    apply h
  | case2 undiscovered finished top stack discovered undiscovered' next ih =>
    rw [search, if_pos discovered]
    apply ih h
  | case3 undiscovered finished top stack discovered ih =>
    rw [search, if_neg discovered]
    apply ih
    split
    · apply h
    · next unknown =>
      rw [List.nodup_append]
      refine ⟨h, by simp, ?_⟩
      intro other ho last hl
      rw [List.mem_singleton] at hl
      rintro rfl
      apply unknown
      simpa [hl] using ho

/-- Nothing is finished but what is on the stack of a search or found by it. -/
theorem mem_of_mem_search (h : name ∈ graph.search undiscovered finished stack) :
  name ∈ finished ∨ name ∈ stack ∨ name ∈ undiscovered
  := by
  induction undiscovered, finished, stack using search.induct graph with
  | case1 undiscovered finished =>
    rw [search] at h
    exact .inl h
  | case2 undiscovered finished top stack discovered undiscovered' next ih =>
    rw [search, if_pos discovered] at h
    obtain done | waiting | unmet := ih h
    · exact .inl done
    · right
      obtain found | waiting := List.mem_append.mp waiting
      · have unmet : name ∈ undiscovered' := by simpa using (List.mem_filter.mp found).2
        exact .inr (List.mem_of_mem_erase unmet)
      · exact .inl waiting
    · exact .inr (.inr (List.mem_of_mem_erase unmet))
  | case3 undiscovered finished top stack discovered ih =>
    rw [search, if_neg discovered] at h
    obtain done | waiting | unmet := ih h
    · split at done
      · exact .inl done
      · obtain done | last := List.mem_append.mp done
        · exact .inl done
        · obtain rfl := List.mem_singleton.mp last
          exact .inr (.inl List.mem_cons_self)
    · exact .inr (.inl (List.mem_cons_of_mem top waiting))
    · exact .inr (.inr unmet)

theorem mem_finishOrder (h : name ∈ graph.nodes) :
  name ∈ graph.finishOrder
  := mem_search (.inr h)

theorem mem_finishOrder_iff :
  name ∈ graph.finishOrder ↔ name ∈ graph.nodes
  := by
  constructor
  · intro h
    exact ((mem_of_mem_search h).resolve_left List.not_mem_nil).elim id id
  · exact mem_finishOrder

theorem nodup_finishOrder (graph : Graph) :
  graph.finishOrder.Nodup
  := nodup_search List.nodup_nil

/-! ### Dependencies are finished first -/

/-- A search under way.  What is above a node that is discovered and not finished was put there on account of
the node. -/
structure Searching (graph : Graph) (undiscovered finished stack : List String) : Prop where
  met : ∀ node ∈ graph.nodes, node ∈ undiscovered ∨ node ∈ finished ∨ node ∈ stack
  ordered : graph.Ordered finished
  /-- The node depends on all that is above it, and everything else that it depends on is finished. -/
  above : ∀ first node rest, stack = first ++ node :: rest → node ∉ first → node ∉ undiscovered →
    node ∉ finished → (∀ other ∈ first, graph.Reaches node other)
      ∧ ∀ other, graph.Edge node other → other ∈ finished ∨ other ∈ first

theorem searching_nodes (graph : Graph) :
  graph.Searching graph.nodes [] graph.nodes
  := by
  constructor
  · intro node hn
    exact .inl hn
  · apply Ordered.nil
  · intro first node rest split _ discovered
    apply absurd _ discovered
    simp [split]

/-- A name that is not in the first of two lists is found in the second. -/
theorem exists_of_append_eq {next tail first rest : List String} (split : next ++ tail = first ++ name :: rest)
    (unlisted : name ∉ next) :
  ∃ between, first = next ++ between ∧ tail = between ++ name :: rest
  := by
  obtain ⟨between, he, ht⟩ | ⟨between, rfl, hr⟩ := List.append_eq_append_iff.mp split
  · exact ⟨between, he, ht⟩
  · obtain ⟨rfl, ht⟩ | ⟨between, rfl, -⟩ := List.cons_eq_append_iff.mp hr
    · exact ⟨[], by simp, ht⟩
    · simp at unlisted

variable {top : String}

namespace Searching

/-- What the node on top depends on is finished, or is discovered on account of it. -/
theorem finished_or_undiscovered (acyclic : graph.cyclicNodes = [])
    (searching : graph.Searching undiscovered finished (top :: stack)) {other : String}
    (edge : graph.Edge top other) :
  other ∈ finished ∨ other ∈ undiscovered.erase top
  := by
  have uncyclic : ¬ graph.Reaches top top := by
    rw [← mem_cyclicNodes, acyclic]
    apply List.not_mem_nil
  have distinct : other ≠ top := by
    rintro rfl
    exact uncyclic (.single edge)
  rw [List.mem_erase_of_ne distinct]
  obtain unmet | done | waiting := searching.met other edge.mem_nodes
  · exact .inr unmet
  · exact .inl done
  · by_contra discovered
    obtain ⟨undone, unmet⟩ := not_or.mp discovered
    -- It would wait for the node on top, and so depend on it.
    obtain ⟨first, rest, split, topmost⟩ := List.eq_append_cons_of_mem waiting
    obtain ⟨reaches, -⟩ := searching.above first other rest split topmost unmet undone
    obtain ⟨-, he⟩ | ⟨between, rfl, -⟩ := List.cons_eq_append_iff.mp split
    · exact distinct (List.cons.inj he).1
    · exact uncyclic (.head edge (reaches top List.mem_cons_self))

/-- The node on top of the stack is discovered, and what it depends on is put above it. -/
theorem discover (acyclic : graph.cyclicNodes = [])
    (searching : graph.Searching undiscovered finished (top :: stack)) :
  graph.Searching (undiscovered.erase top) finished
    ((graph.successors top).filter ((undiscovered.erase top).contains ·) ++ top :: stack)
  := by
  have mem_next {other : String} :
      other ∈ (graph.successors top).filter ((undiscovered.erase top).contains ·)
        ↔ graph.Edge top other ∧ other ∈ undiscovered.erase top := by
    rw [List.mem_filter, mem_successors, List.contains_iff_mem]
    rfl
  generalize (graph.successors top).filter ((undiscovered.erase top).contains ·) = next at mem_next
  constructor
  · intro node hn
    by_cases he : node = top
    · simp [he]
    · rw [List.mem_erase_of_ne he]
      apply (searching.met node hn).imp_right
      exact Or.imp_right (List.mem_append_right next)
  · apply searching.ordered
  · intro first node rest split topmost discovered undone
    obtain ⟨between, rfl, hs⟩ := exists_of_append_eq split fun hm => discovered (mem_next.mp hm).2
    obtain ⟨rfl, he⟩ | ⟨between, rfl, rfl⟩ := List.cons_eq_append_iff.mp hs
    · obtain ⟨rfl, rfl⟩ := List.cons.inj he
      rw [List.append_nil]
      constructor
      · intro other ho
        exact .single (mem_next.mp ho).1
      · intro other edge
        apply (searching.finished_or_undiscovered acyclic edge).imp_right
        intro unmet
        exact mem_next.mpr ⟨edge, unmet⟩
    · simp only [List.mem_append, List.mem_cons, not_or] at topmost
      rw [List.mem_erase_of_ne topmost.2.1] at discovered
      obtain ⟨reaches, edges⟩ := searching.above (top :: between) node rest rfl (by simp [topmost.2]) discovered undone
      constructor
      · intro other ho
        obtain ho | ho := List.mem_append.mp ho
        · exact (reaches top List.mem_cons_self).tail (mem_next.mp ho).1
        · exact reaches other ho
      · intro other edge
        exact (edges other edge).imp_right (List.mem_append_right next)

/-- The node on top of the stack is finished. -/
theorem finish (searching : graph.Searching undiscovered finished (top :: stack)) (discovered : top ∉ undiscovered) :
  graph.Searching undiscovered (if finished.contains top then finished else finished ++ [top]) stack
  := by
  have mem_finished (other : String) :
      other ∈ (if finished.contains top then finished else finished ++ [top]) ↔ other ∈ finished ∨ other = top := by
    split
    · next done =>
      rw [List.contains_iff_mem] at done
      constructor
      · exact .inl
      · rintro (ho | rfl)
        · exact ho
        · exact done
    · simp
  constructor
  · intro node hn
    rw [mem_finished]
    have met := searching.met node hn
    rw [List.mem_cons] at met
    tauto
  · split
    · apply searching.ordered
    · next undone =>
      apply searching.ordered.concat
      intro other edge
      obtain ⟨-, edges⟩ := searching.above [] top stack rfl List.not_mem_nil discovered (by simpa using undone)
      exact (edges other edge).resolve_right List.not_mem_nil
  · intro first node rest split topmost unmet undone
    rw [mem_finished, not_or] at undone
    obtain ⟨reaches, edges⟩ := searching.above (top :: first) node rest (by rw [split]; rfl)
      (by simp [undone.2, topmost]) unmet undone.1
    constructor
    · intro other ho
      exact reaches other (List.mem_cons_of_mem top ho)
    · intro other edge
      rw [mem_finished, or_assoc, ← List.mem_cons]
      exact edges other edge

end Searching

theorem ordered_search (acyclic : graph.cyclicNodes = []) (searching : graph.Searching undiscovered finished stack) :
  graph.Ordered (graph.search undiscovered finished stack)
  := by
  induction undiscovered, finished, stack using search.induct graph with
  | case1 undiscovered finished =>
    rw [search]
    apply searching.ordered
  | case2 undiscovered finished top stack fresh undiscovered' next ih =>
    rw [search, if_pos fresh]
    apply ih (searching.discover acyclic)
  | case3 undiscovered finished top stack discovered ih =>
    rw [search, if_neg discovered]
    apply ih (searching.finish discovered)

theorem topologicalOrder_eq_ok (acyclic : graph.cyclicNodes = []) :
  graph.topologicalOrder = .ok graph.finishOrder
  := by
  unfold topologicalOrder detectCycles
  rw [acyclic]
  rfl

/-- Without cycles every node is finished after all that it depends on. -/
theorem ordered_finishOrder (acyclic : graph.cyclicNodes = []) :
  graph.Ordered graph.finishOrder
  := ordered_search acyclic graph.searching_nodes

/-- An order of the nodes of a graph in which dependencies come first. -/
structure Topological (graph : Graph) (order : List String) : Prop where
  /-- Every node is there once, and nothing else. -/
  nodes : order.Perm graph.nodes
  /-- What a node depends on, directly or through other nodes, comes before it. -/
  before : ∀ earlier node later, order = earlier ++ node :: later → ∀ other, graph.Reaches node other → other ∈ earlier

theorem perm_finishOrder (graph : Graph) :
  graph.finishOrder.Perm graph.nodes
  := by
  apply (List.perm_ext_iff_of_nodup graph.nodup_finishOrder graph.nodup_nodes).mpr
  intro node
  exact mem_finishOrder_iff

/-- A graph without cycles has a topological order. -/
theorem topological_of_acyclic (acyclic : ∀ node, ¬ graph.Reaches node node) :
  ∃ order, graph.topologicalOrder = .ok order ∧ graph.Topological order
  := by
  have none := cyclicNodes_eq_nil_iff.mpr acyclic
  refine ⟨graph.finishOrder, topologicalOrder_eq_ok none, graph.perm_finishOrder, ?_⟩
  intro earlier node later split other reaches
  exact (ordered_finishOrder none).reaches split reaches

/-- A graph in which a node is met twice before it is discovered, on account of two nodes one of which depends on
the other. -/
def shared : Graph := ((ofNodes ["App", "Db", "Vpc"]).addEdge "App" "Db" |>.addEdge "App" "Vpc").addEdge "Db" "Vpc"

/-- It is finished once, and first. -/
theorem topological_shared :
  (∀ node, ¬ shared.Reaches node node)
    ∧ shared.topologicalOrder = .ok ["Vpc", "Db", "App"] ∧ shared.Topological ["Vpc", "Db", "App"]
  := by
  have acyclic : ∀ node, ¬ shared.Reaches node node := cyclicNodes_eq_nil_iff.mp (by cbv)
  obtain ⟨order, ordered, topological⟩ := topological_of_acyclic acyclic
  have computed : shared.topologicalOrder = .ok ["Vpc", "Db", "App"] := by cbv
  rw [computed] at ordered
  cases ordered
  exact ⟨acyclic, computed, topological⟩

end Reconcile.Graph
