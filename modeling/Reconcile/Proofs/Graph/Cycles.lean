import Mathlib.Data.Finset.Card
import Mathlib.Logic.Relation
import Mathlib.Tactic.Common
import Reconcile.Graph.Reachability

/-!
# Reachability and cycles, as relations

The closure of a name holds what can be reached from it along edges, and the cyclic nodes are
those that can be reached from themselves.  In a graph without cyclic nodes one can go down
along edges only so often.
-/

namespace Reconcile.Graph

variable (graph : Graph)

/-- There is an edge from one name to another. -/
def Edge (source target : String) : Prop := (source, target) ∈ graph.edges

/-- A name depends on another, directly or through other names. -/
def Reaches : String → String → Prop := Relation.TransGen graph.Edge

variable {graph}

theorem Edge.mem_nodes {source target : String} (h : graph.Edge source target) :
  target ∈ graph.nodes
  := graph.target_mem _ h

theorem Reaches.mem_nodes {source target : String} (h : graph.Reaches source target) :
  target ∈ graph.nodes
  := by
  cases h with
  | single h => apply h.mem_nodes
  | tail _ h => apply h.mem_nodes

/-! ### Exploration -/

theorem explore_of_found {unseen seen queue : List String} {source next : String}
    (found : (graph.successors source).find? (unseen.contains ·) = some next) :
  graph.explore unseen seen (source :: queue)
    = graph.explore (unseen.erase next) (seen ++ [next]) (source :: queue ++ [next])
  := by
  rw [explore.eq_def]
  simp only
  split
  · next found' =>
    rw [found] at found'
    cases found'
    rfl
  · next found' =>
    rw [found] at found'
    cases found'

theorem explore_of_not_found {unseen seen queue : List String} {source : String}
    (found : (graph.successors source).find? (unseen.contains ·) = none) :
  graph.explore unseen seen (source :: queue) = graph.explore unseen seen queue
  := by
  rw [explore.eq_def]
  simp only
  split
  · next found' =>
    rw [found] at found'
    cases found'
  · rfl

/-- An exploration stays within a set of names that the edges do not leave. -/
theorem explore_subset {within : String → Prop} {unseen seen queue : List String}
    (step : ∀ source ∈ queue, ∀ target, graph.Edge source target → within target)
    (closed : ∀ source, within source → ∀ target, graph.Edge source target → within target)
    (hs : ∀ name ∈ seen, within name) :
  ∀ name ∈ graph.explore unseen seen queue, within name
  := by
  induction unseen, seen, queue using explore.induct graph with
  | case1 unseen seen =>
    rw [explore]
    apply hs
  | case2 unseen seen source queue next found ih =>
    have edge : graph.Edge source next := mem_successors.mp (List.mem_of_find?_eq_some found)
    have reached := step source List.mem_cons_self next edge
    rw [explore_of_found found]
    apply ih
    · intro name hn
      obtain hn | hn := List.mem_append.mp hn
      · apply step name hn
      · obtain rfl := List.mem_singleton.mp hn
        apply closed name reached
    · intro name hn
      obtain hn | hn := List.mem_append.mp hn
      · apply hs name hn
      · obtain rfl := List.mem_singleton.mp hn
        apply reached
  | case3 unseen seen source queue found ih =>
    rw [explore_of_not_found found]
    apply ih (fun name hn => step name (List.mem_cons_of_mem _ hn)) hs

/-- An exploration goes on until no edge leads out of what was seen. -/
theorem explore_closed {start : String} {unseen seen queue : List String}
    (all : ∀ name ∈ graph.nodes, name ∈ unseen ∨ name ∈ seen)
    (done : ∀ source, source = start ∨ source ∈ seen →
      source ∈ queue ∨ ∀ target, graph.Edge source target → target ∈ seen) :
  ∀ source, source = start ∨ source ∈ graph.explore unseen seen queue →
    ∀ target, graph.Edge source target → target ∈ graph.explore unseen seen queue
  := by
  induction unseen, seen, queue using explore.induct graph with
  | case1 unseen seen =>
    rw [explore]
    intro source hs
    exact (done source hs).resolve_left List.not_mem_nil
  | case2 unseen seen source queue next found ih =>
    rw [explore_of_found found]
    apply ih
    · intro name hn
      obtain hu | hs := all name hn
      · by_cases he : name = next
        · exact .inr (by simp [he])
        · exact .inl ((List.mem_erase_of_ne he).mpr hu)
      · exact .inr (List.mem_append_left _ hs)
    · intro other ho
      by_cases he : other = next
      · exact .inl (by simp [he])
      · have hs : other = start ∨ other ∈ seen := by simpa [he] using ho
        obtain hq | hq := done other hs
        · exact .inl (List.mem_append_left _ hq)
        · exact .inr fun target ht => List.mem_append_left _ (hq target ht)
  | case3 unseen seen source queue found ih =>
    rw [explore_of_not_found found]
    apply ih all
    intro other ho
    obtain hq | hq := done other ho
    · obtain rfl | hq := List.mem_cons.mp hq
      · -- All that the first name in the queue depends on has been seen.
        right
        intro target ht
        apply (all target ht.mem_nodes).resolve_left
        have := List.find?_eq_none.mp found target (mem_successors.mpr ht)
        simpa using this
      · exact .inl hq
    · exact .inr hq

theorem mem_closure {source target : String} :
  target ∈ graph.closure source ↔ graph.Reaches source target
  := by
  constructor
  · apply explore_subset
    · intro name hn target ht
      obtain rfl := List.mem_singleton.mp hn
      exact .single ht
    · intro middle hm target ht
      apply hm.tail ht
    · simp
  · intro h
    have closed : ∀ middle, middle = source ∨ middle ∈ graph.closure source →
        ∀ target, graph.Edge middle target → target ∈ graph.closure source := by
      apply explore_closed
      · intro name hn
        exact .inl hn
      · intro name hn
        exact .inl (by simpa using hn)
    induction h with
    | single h => apply closed _ (.inl rfl) _ h
    | tail _ h ih => apply closed _ (.inr ih) _ h

theorem nodup_explore {unseen seen queue : List String} (unmet : unseen.Nodup) (met : seen.Nodup)
    (apart : ∀ name ∈ seen, name ∉ unseen) :
  (graph.explore unseen seen queue).Nodup
  := by
  induction unseen, seen, queue using explore.induct graph with
  | case1 unseen seen =>
    rw [explore]
    apply met
  | case2 unseen seen source queue next found ih =>
    have isNew : next ∈ unseen := by simpa using List.find?_some found
    rw [explore_of_found found]
    apply ih (unmet.erase next)
    · rw [List.nodup_append]
      refine ⟨met, List.nodup_singleton next, ?_⟩
      intro name hn other ho
      obtain rfl := List.mem_singleton.mp ho
      rintro rfl
      exact apart name hn isNew
    · intro name hn
      obtain hn | hn := List.mem_append.mp hn
      · exact fun still => apart name hn (List.mem_of_mem_erase still)
      · obtain rfl := List.mem_singleton.mp hn
        exact unmet.not_mem_erase
  | case3 unseen seen source queue found ih =>
    rw [explore_of_not_found found]
    apply ih unmet met apart

/-- A closure holds no name twice. -/
theorem nodup_closure (graph : Graph) (source : String) :
  (graph.closure source).Nodup
  := nodup_explore graph.nodup_nodes List.nodup_nil nofun

/-! ### Cycles -/

theorem mem_closures {entry : String × List String} :
  entry ∈ graph.closures ↔ entry.1 ∈ graph.nodes ∧ entry.2 = graph.closure entry.1
  := by
  obtain ⟨node, below⟩ := entry
  simp only [closures, List.mem_map, Prod.mk.injEq]
  constructor
  · rintro ⟨node, hn, rfl, rfl⟩
    exact ⟨hn, rfl⟩
  · rintro ⟨hn, rfl⟩
    exact ⟨node, hn, rfl, rfl⟩

theorem mem_component {node other : String} (hn : node ∈ graph.nodes) :
  other ∈ component graph.closures node (graph.closure node)
    ↔ other = node ∨ graph.Reaches node other ∧ graph.Reaches other node
  := by
  simp only [component, List.mem_map, List.mem_filter, mem_closures, Bool.or_eq_true, beq_iff_eq,
    Bool.and_eq_true, List.contains_iff_mem, mem_closure]
  constructor
  · rintro ⟨⟨_, below⟩, ⟨⟨-, hb⟩, h⟩, rfl⟩
    dsimp only at hb h ⊢
    rw [hb, mem_closure] at h
    apply h
  · intro h
    have ho : other ∈ graph.nodes := by
      obtain rfl | ⟨h, -⟩ := h
      · apply hn
      · apply h.mem_nodes
    refine ⟨(other, graph.closure other), ⟨⟨ho, rfl⟩, ?_⟩, rfl⟩
    rwa [mem_closure]

theorem nodup_closures (graph : Graph) :
  (graph.closures.map (·.1)).Nodup
  := by
  rw [closures, List.map_map]
  simpa [Function.comp_def] using graph.nodup_nodes

theorem nodup_component (node : String) (below : List String) :
  (component graph.closures node below).Nodup
  := graph.nodup_closures.sublist (List.filter_sublist.map _)

/-- A list without repetition has more than one item when it has one other than a given one. -/
theorem one_lt_length_iff {names : List String} (nodup : names.Nodup) {name : String} (h : name ∈ names) :
  1 < names.length ↔ ∃ other ∈ names, other ≠ name
  := by
  match names with
  | [] => simp at h
  | [only] =>
    obtain rfl := List.mem_singleton.mp h
    simp
  | first :: second :: rest =>
    simp only [List.length_cons, Nat.lt_add_left_iff_pos, Nat.zero_lt_succ, true_iff]
    by_cases he : first = name
    · use second, by simp
      rintro rfl
      simp [he] at nodup
    · exact ⟨first, by simp, he⟩

/-- A node has company in its component when there is another node there. -/
theorem one_lt_length_component {node : String} (hn : node ∈ graph.nodes) :
  1 < (component graph.closures node (graph.closure node)).length
    ↔ ∃ other, other ≠ node ∧ graph.Reaches node other ∧ graph.Reaches other node
  := by
  rw [one_lt_length_iff (nodup_component node _) ((mem_component hn).mpr (.inl rfl))]
  simp only [mem_component hn]
  constructor
  · rintro ⟨other, rfl | h, hne⟩
    · exact absurd rfl hne
    · exact ⟨other, hne, h⟩
  · rintro ⟨other, hne, h⟩
    exact ⟨other, .inr h, hne⟩

/-- The cyclic nodes are those that depend on themselves. -/
theorem mem_cyclicNodes {node : String} :
  node ∈ graph.cyclicNodes ↔ graph.Reaches node node
  := by
  simp only [cyclicNodes, mem_alphabetical, List.mem_map, List.mem_filter, mem_closures, Bool.or_eq_true,
    decide_eq_true_eq, List.contains_iff_mem]
  constructor
  · rintro ⟨⟨_, below⟩, ⟨⟨hn, hb⟩, h⟩, rfl⟩
    dsimp only at hn hb h ⊢
    obtain h | h := h
    · rw [hb, one_lt_length_component hn] at h
      obtain ⟨other, -, hto, hfrom⟩ := h
      apply hto.trans hfrom
    · exact .single h
  · intro h
    have hn := h.mem_nodes
    refine ⟨(node, graph.closure node), ⟨⟨hn, rfl⟩, ?_⟩, rfl⟩
    rw [one_lt_length_component hn]
    obtain ⟨next, first, rest⟩ := Relation.TransGen.head'_iff.mp h
    by_cases he : next = node
    · subst he
      exact .inr first
    · obtain rfl | rest := Relation.reflTransGen_iff_eq_or_transGen.mp rest
      · exact absurd rfl he
      · exact .inl ⟨next, he, .single first, rest⟩

/-- There are no cyclic nodes just when no name depends on itself. -/
theorem cyclicNodes_eq_nil_iff :
  graph.cyclicNodes = [] ↔ ∀ node, ¬ graph.Reaches node node
  := by
  simp only [List.eq_nil_iff_forall_not_mem, mem_cyclicNodes]

/-- When every edge leads away from one node, and none back to it, there is no cycle. -/
theorem cyclicNodes_eq_nil_of_star {centre : String}
    (star : ∀ source target, graph.Edge source target → source = centre ∧ target ≠ centre) :
  graph.cyclicNodes = []
  := by
  apply List.eq_nil_iff_forall_not_mem.mpr
  intro node hn
  have cycle := mem_cyclicNodes.mp hn
  obtain ⟨_, first, -⟩ := Relation.TransGen.head'_iff.mp cycle
  obtain ⟨_, -, last⟩ := Relation.TransGen.tail'_iff.mp cycle
  exact (star _ _ last).2 (star _ _ first).1

/-- The number of names that a name depends on. -/
def below (graph : Graph) (name : String) : Nat := (graph.closure name).toFinset.card

/-- In a graph without cyclic nodes a name depends on more names than those it depends on. -/
theorem below_lt (acyclic : graph.cyclicNodes = []) {source target : String} (h : graph.Edge source target) :
  graph.below target < graph.below source
  := by
  apply Finset.card_lt_card
  apply Finset.ssubset_iff_of_subset _ |>.mpr
  · use target
    constructor
    · rw [List.mem_toFinset, mem_closure]
      exact .single h
    · rw [List.mem_toFinset, mem_closure, ← mem_cyclicNodes, acyclic]
      apply List.not_mem_nil
  · intro name hn
    rw [List.mem_toFinset, mem_closure] at hn ⊢
    exact .head h hn

end Reconcile.Graph
