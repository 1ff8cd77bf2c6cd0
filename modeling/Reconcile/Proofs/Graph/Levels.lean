import Mathlib.Data.List.Nodup
import Mathlib.Data.List.Perm.Lattice
import Mathlib.Tactic.Common
import Reconcile.Proofs.Graph.Leveling
import Reconcile.Proofs.Graph.Refusal
import Reconcile.Proofs.Table

/-!
# Levels of nodes

In a leveling the level of a node is one more than the greatest level among its dependencies, whatever
the nodes at which the walk begins.  The walk numbers the nodes as it enters and as it leaves them, and
uses every number once.  A level that is not the first one has a node one level below, so the groups of
the levels are nonempty, and every node is in one of them.
-/

namespace Reconcile

/-! ### Greatest numbers -/

/-- The greatest of some numbers, zero if there are none. -/
def greatest (numbers : List Nat) : Nat := numbers.foldr max 0

theorem le_greatest {numbers : List Nat} {n : Nat} (h : n ∈ numbers) :
  n ≤ greatest numbers
  := by
  induction numbers with
  | nil => cases h
  | cons first rest ih =>
    obtain rfl | h := List.mem_cons.mp h
    · apply Nat.le_max_left
    · exact (ih h).trans (Nat.le_max_right _ _)

/-- The greatest of some numbers is among them, unless it is zero. -/
theorem greatest_mem {numbers : List Nat} (h : greatest numbers ≠ 0) :
  greatest numbers ∈ numbers
  := by
  induction numbers with
  | nil => exact absurd rfl h
  | cons first rest ih =>
    have split : greatest (first :: rest) = max first (greatest rest) := rfl
    rw [split] at h ⊢
    obtain le | le := Nat.le_total (greatest rest) first
    · rw [Nat.max_eq_left le]
      exact List.mem_cons_self
    · rw [Nat.max_eq_right le] at h ⊢
      exact List.mem_cons_of_mem _ (ih h)

theorem foldl_max {α : Type} (f : α → Nat) (items : List α) (n : Nat) :
  items.foldl (fun height item => max height (f item)) n = max n (greatest (items.map f))
  := by
  induction items generalizing n with
  | nil => exact (Nat.max_zero n).symm
  | cons item rest ih =>
    rw [List.foldl_cons, ih, Nat.max_assoc]
    rfl

/-! ### Levels among the places of nodes -/

/-- The level of a node among the places of some, zero if it has none. -/
def levelAmong (places : List (String × NodeOrder)) (node : String) : Nat :=
  ((lookup node places).map (·.level)).getD 0

/-- The greatest level of some nodes. -/
def highestAmong (places : List (String × NodeOrder)) (nodes : List String) : Nat :=
  greatest (nodes.map (levelAmong places))

/-- The level of a node in a leveling. -/
def Leveling.levelOf (leveling : Leveling) (node : String) : Nat := levelAmong leveling.ordered node

section

variable {places new : List (String × NodeOrder)} {node : String} {nodes : List String}

theorem levelAmong_append (h : node ∈ places.map (·.1)) :
  levelAmong (places ++ new) node = levelAmong places node
  := by
  rw [levelAmong, levelAmong, lookup_append_of_mem new h]

theorem highestAmong_append (h : ∀ node ∈ nodes, node ∈ places.map (·.1)) :
  highestAmong (places ++ new) nodes = highestAmong places nodes
  := by
  unfold highestAmong
  congr 1
  apply List.map_congr_left
  intro node hn
  apply levelAmong_append (h node hn)

end

namespace Graph

variable {graph : Graph}

/-! ### What a walk has numbered -/

namespace Walk

/-- A walk has given every node its level, and numbered the nodes as it left them. -/
structure Measured (graph : Graph) (walk : Walk) : Prop where
  level : ∀ node order, lookup node walk.done = some order →
    order.level = highestAmong walk.done (graph.dependencies node) + 1
  post : walk.done.map (·.2.post) = List.range walk.done.length

/-- A walk goes on to another, and the numbers of the nodes that it leaves are those that it gives in entering. -/
def Enters (walk after : Walk) : Prop :=
  ∃ new, after.done = walk.done ++ new ∧ after.entered = walk.entered + new.length
    ∧ (new.map (·.2.pre)).Perm (List.range' walk.entered new.length)

variable {walk middle after : Walk}

theorem Enters.refl (walk : Walk) :
  walk.Enters walk
  := ⟨[], (List.append_nil _).symm, rfl, .nil⟩

theorem Enters.trans (first : walk.Enters middle) (second : middle.Enters after) :
  walk.Enters after
  := by
  obtain ⟨new, done, entered, numbers⟩ := first
  obtain ⟨new', done', entered', numbers'⟩ := second
  refine ⟨new ++ new', by rw [done', done, List.append_assoc], ?_, ?_⟩
  · rw [entered', entered, List.length_append, Nat.add_assoc]
  · rw [List.map_append, List.length_append, ← List.range'_append_1]
    apply numbers.append
    rwa [← entered]

/-- The number of a node is given before those of the nodes that are entered on account of it. -/
theorem Enters.leave {entry : String × NodeOrder} (enters : (⟨walk.done, walk.entered + 1⟩ : Walk).Enters middle)
    (number : entry.2.pre = walk.entered) :
  walk.Enters ⟨middle.done ++ [entry], middle.entered⟩
  := by
  obtain ⟨new, done, entered, numbers⟩ := enters
  refine ⟨new ++ [entry], by simp only [done, List.append_assoc], ?_, ?_⟩
  · simp only [entered, List.length_append, List.length_singleton]
    omega
  · rw [List.map_append, List.length_append, List.length_singleton, List.range'_succ]
    apply List.perm_append_comm.trans
    simpa [number] using numbers

/-- What a walk has left before keeps its level. -/
theorem Enters.levelAmong_eq (enters : walk.Enters after) {node : String} (h : node ∈ walk.left) :
  levelAmong after.done node = levelAmong walk.done node
  := by
  obtain ⟨new, done, -⟩ := enters
  rw [done]
  apply levelAmong_append h

/-- A node gets its place after its dependencies. -/
theorem Measured.leave {node : String} {pre : Nat} (measured : walk.Measured graph) (tidy : walk.Tidy graph)
    (there : ∀ dependency ∈ graph.dependencies node, dependency ∈ walk.left) :
  (⟨walk.done ++ [(node, ⟨highestAmong walk.done (graph.dependencies node) + 1, pre, walk.done.length⟩)],
    walk.entered⟩ : Walk).Measured graph
  := by
  constructor
  · intro other order found
    dsimp only at found ⊢
    by_cases known : other ∈ walk.left
    · rw [lookup_append_of_mem _ known] at found
      rw [highestAmong_append, measured.level other order found]
      intro dependency hd
      obtain ⟨before, rest, split⟩ := List.append_of_mem known
      rw [← left, split]
      exact List.mem_append_left _ (tidy.ordered before other rest split dependency (mem_dependencies.mp hd))
    · rw [lookup_append_of_not_mem _ known] at found
      simp only [lookup] at found
      split at found
      · next same =>
        cases found
        subst same
        rw [highestAmong_append there]
      · cases found
  · simp only [List.map_append, List.length_append, List.length_singleton, List.range_succ, measured.post,
      List.map_singleton]

end Walk

mutual

/-- A visit gives the node its level. -/
theorem visit_measured {free : List String} {node : String} {walk after : Walk} {level : Nat}
    (h : graph.visit free node walk = some (level, after)) (nodup : free.Nodup) (tidy : walk.Tidy graph)
    (measured : walk.Measured graph) :
  after.Measured graph ∧ walk.Enters after ∧ levelAmong after.done node = level
  := by
  rw [visit] at h
  split at h
  · next order known =>
    cases h
    exact ⟨measured, .refl walk, by rw [levelAmong, known]; rfl⟩
  · next unknown =>
    split at h
    · next isFree =>
      split at h
      · cases h
      · next below middle visited =>
        cases h
        have begun : (⟨walk.done, walk.entered + 1⟩ : Walk).Tidy graph := ⟨tidy.nodup, tidy.ordered⟩
        obtain ⟨tidy', ⟨new, left_eq, within⟩, there⟩ := visitAll_spec visited (nodup.erase node) begun
        obtain ⟨measured', enters, rfl⟩ :=
          visitAll_measured visited (nodup.erase node) begun ⟨measured.level, measured.post⟩
        have fresh : node ∉ middle.left := by
          rw [left_eq, List.mem_append]
          rintro (left | isNew)
          · exact lookup_eq_none_iff.mp unknown left
          · exact nodup.not_mem_erase (within node isNew)
        refine ⟨measured'.leave tidy' there, enters.leave rfl, ?_⟩
        rw [levelAmong, lookup_append_of_not_mem _ fresh]
        simp [lookup]
    · cases h
termination_by (free.length, 0)
decreasing_by
  apply Prod.Lex.left
  apply length_filter_erase_lt
  assumption

/-- Visits in turn give all of some nodes their levels. -/
theorem visitAll_measured {free : List String} {nodes : List String} {walk after : Walk} {level : Nat}
    (h : graph.visitAll free nodes walk = some (level, after)) (nodup : free.Nodup) (tidy : walk.Tidy graph)
    (measured : walk.Measured graph) :
  after.Measured graph ∧ walk.Enters after ∧ highestAmong after.done nodes = level
  := by
  match nodes with
  | [] =>
    rw [visitAll] at h
    cases h
    exact ⟨measured, .refl walk, rfl⟩
  | node :: rest =>
    rw [visitAll] at h
    split at h
    · cases h
    · next first middle visited =>
      split at h
      · cases h
      · next second last visitedAll =>
        cases h
        obtain ⟨tidy', -, there⟩ := visit_spec visited nodup tidy
        obtain ⟨measured', enters, rfl⟩ := visit_measured visited nodup tidy measured
        obtain ⟨measured'', enters', rfl⟩ := visitAll_measured visitedAll nodup tidy' measured'
        refine ⟨measured'', enters.trans enters', ?_⟩
        rw [← enters'.levelAmong_eq there]
        rfl
termination_by (free.length, nodes.length + 1)

end

/-! ### The leveling of a walk -/

/-- The places of the nodes in a leveling. -/
structure Leveled (graph : Graph) (leveling : Leveling) : Prop where
  /-- Every node has a place, and only one. -/
  nodes : (leveling.ordered.map (·.1)).Perm graph.nodes
  /-- The level of a node is one more than the greatest level of what it depends on. -/
  level : ∀ node order, leveling.get? node = some order →
    order.level = greatest ((graph.dependencies node).map leveling.levelOf) + 1
  /-- Every number is given once to a node that is entered. -/
  pre : (leveling.ordered.map (·.2.pre)).Perm (List.range graph.nodes.length)
  /-- The nodes are listed by the numbers that are given as they are left, each once. -/
  post : leveling.ordered.map (·.2.post) = List.range graph.nodes.length
  /-- A node is left after what it depends on. -/
  later : ∀ node other, graph.Edge node other → ∀ order order', leveling.get? node = some order →
    leveling.get? other = some order' → order'.post < order.post
  /-- So it is listed after what it depends on. -/
  ordered : graph.Ordered (leveling.ordered.map (·.1))

section

variable {places : List (String × NodeOrder)} {count : Nat}

/-- Places that are numbered in their order. -/
theorem pairwise_post (numbered : places.map (·.2.post) = List.range count) :
  places.Pairwise fun entry later => entry.2.post < later.2.post
  := by
  rw [← List.pairwise_map (f := fun entry : String × NodeOrder => entry.2.post), numbered]
  exact List.pairwise_lt_range

theorem post_lt_of_edge (numbered : places.map (·.2.post) = List.range count) (nodup : (places.map (·.1)).Nodup)
    (ordered : graph.Ordered (places.map (·.1))) {node other : String} (edge : graph.Edge node other)
    {order order' : NodeOrder} (found : lookup node places = some order) (found' : lookup other places = some order') :
  order'.post < order.post
  := by
  obtain ⟨before, after, rfl⟩ := List.append_of_mem (mem_of_lookup found)
  have earlier : other ∈ before.map (·.1) :=
    ordered (before.map (·.1)) node (after.map (·.1)) (by rw [List.map_append, List.map_cons]) other edge
  rw [lookup_append_of_mem _ earlier] at found'
  exact (List.pairwise_append.mp (pairwise_post numbered)).2.2 _ (mem_of_lookup found') _ List.mem_cons_self

end

theorem leveled_of_levelFrom {nodes : List String} {leveling : Leveling} (h : graph.levelFrom nodes = .ok leveling)
    (all : ∀ node ∈ graph.nodes, node ∈ nodes) :
  graph.Leveled leveling
  := by
  obtain ⟨nodup, ordered, there, within⟩ := levelFrom_spec h
  have names : (leveling.ordered.map (·.1)).Perm graph.nodes := by
    apply (List.perm_ext_iff_of_nodup nodup graph.nodup_nodes).mpr
    intro node
    exact ⟨within node, fun hn => there node (all node hn)⟩
  have count : leveling.ordered.length = graph.nodes.length := by
    rw [← names.length_eq, List.length_map]
  unfold levelFrom at h
  split at h
  · next level walk visited =>
    cases h
    obtain ⟨measured, ⟨new, done, -, numbers⟩, -⟩ := visitAll_measured visited graph.nodup_nodes
      ⟨List.nodup_nil, .nil⟩ ⟨nofun, rfl⟩
    have post : walk.done.map (·.2.post) = List.range graph.nodes.length := by rw [measured.post, count]
    refine ⟨names, measured.level, ?_, post, ?_, ordered⟩
    · obtain rfl : walk.done = new := done
      rw [List.range_eq_range', ← count]
      exact numbers
    · intro node other edge order order' found found'
      exact post_lt_of_edge post nodup ordered edge found found'
  · cases h

/-- A graph without cycles has a leveling in both modes. -/
theorem exists_leveled (acyclic : graph.cyclicNodes = []) (improved : Bool) :
  ∃ leveling, graph.level improved = .ok leveling ∧ graph.Leveled leveling
  := by
  obtain ⟨leveling, leveled⟩ := exists_level acyclic improved
  refine ⟨leveling, leveled, ?_⟩
  obtain ⟨first, begun, leveled⟩ := Except.bind_eq_ok.mp leveled
  split at leveled
  · apply leveled_of_levelFrom leveled
    intro node hn
    rw [List.mem_reverse]
    exact (levelFrom_spec begun).2.2.1 node hn
  · cases leveled
    exact leveled_of_levelFrom begun fun _ hn => hn

namespace Leveled

variable {leveling other : Leveling}

theorem nodup (leveled : graph.Leveled leveling) :
  (leveling.ordered.map (·.1)).Nodup
  := leveled.nodes.nodup_iff.mpr graph.nodup_nodes

theorem exists_order (leveled : graph.Leveled leveling) {node : String} (h : node ∈ graph.nodes) :
  ∃ order, leveling.get? node = some order
  := by
  apply Option.isSome_iff_exists.mp
  exact (lookup_isSome_iff node leveling.ordered).mpr (leveled.nodes.mem_iff.mpr h)

theorem levelOf_of_get? {node : String} {order : NodeOrder} (found : leveling.get? node = some order) :
  leveling.levelOf node = order.level
  := by
  rw [Leveling.levelOf, levelAmong, ← Leveling.get?, found]
  rfl

theorem levelOf_eq (leveled : graph.Leveled leveling) {node : String} (h : node ∈ graph.nodes) :
  leveling.levelOf node = greatest ((graph.dependencies node).map leveling.levelOf) + 1
  := by
  obtain ⟨order, found⟩ := leveled.exists_order h
  rw [← leveled.level node order found, levelOf_of_get? found]

theorem levelOf_eq_zero (leveled : graph.Leveled leveling) {node : String} (h : node ∉ graph.nodes) :
  leveling.levelOf node = 0
  := by
  rw [Leveling.levelOf, levelAmong, lookup_eq_none_of_not_mem (mt leveled.nodes.mem_iff.mp h)]
  rfl

/-- The levels of two levelings are the same. -/
theorem levelOf_unique (acyclic : graph.cyclicNodes = []) (leveled : graph.Leveled leveling)
    (leveled' : graph.Leveled other) (node : String) :
  leveling.levelOf node = other.levelOf node
  := by
  induction hb : graph.below node using Nat.strong_induction_on generalizing node with
  | h count ih =>
    by_cases hn : node ∈ graph.nodes
    · rw [leveled.levelOf_eq hn, leveled'.levelOf_eq hn]
      congr 2
      apply List.map_congr_left
      intro dependency hd
      exact ih _ (hb ▸ below_lt acyclic (mem_dependencies.mp hd)) dependency rfl
    · rw [leveled.levelOf_eq_zero hn, leveled'.levelOf_eq_zero hn]

end Leveled

/-! ### The groups of the levels -/

/-- The nodes of a leveling grouped by level. -/
structure Grouped (graph : Graph) (leveling : Leveling) : Prop where
  /-- Every node is in a group, and only in one. -/
  partition : leveling.levels.flatten.Perm graph.nodes
  nonempty : ∀ group ∈ leveling.levels, group ≠ []
  /-- What a node depends on is in groups before its own. -/
  earlier : ∀ (i : Nat) group, leveling.levels[i]? = some group → ∀ node ∈ group, ∀ other, graph.Edge node other →
    ∃ (j : Nat) (group' : List String), j < i ∧ leveling.levels[j]? = some group' ∧ other ∈ group'
  /-- The nodes of a group are in the order in which they are left. -/
  sorted : ∀ group ∈ leveling.levels, group.Pairwise fun node other => ∀ order order',
    leveling.get? node = some order → leveling.get? other = some order' → order.post < order'.post

end Graph

/-- The nodes of one level, the lowest level being number zero. -/
def Leveling.group (leveling : Leveling) (below : Nat) : List String :=
  (leveling.ordered.filter fun entry => entry.2.level == below + 1).map (·.1)

namespace Leveling

variable {leveling : Leveling}

theorem mem_group {below : Nat} {node : String} :
  node ∈ leveling.group below ↔ ∃ order, (node, order) ∈ leveling.ordered ∧ order.level = below + 1
  := by
  simp [group]

theorem height_eq (leveling : Leveling) :
  leveling.height = greatest (leveling.ordered.map (·.2.level))
  := by
  rw [height, foldl_max fun entry : String × NodeOrder => entry.2.level]
  exact Nat.zero_max _

theorem level_le_height {entry : String × NodeOrder} (h : entry ∈ leveling.ordered) :
  entry.2.level ≤ leveling.height
  := by
  rw [height_eq]
  apply le_greatest (List.mem_map_of_mem h)

theorem getElem?_levels {i : Nat} {group : List String} :
  leveling.levels[i]? = some group ↔ i < leveling.height ∧ leveling.group i = group
  := by
  have levels_eq : leveling.levels = (List.range leveling.height).map leveling.group := rfl
  rw [levels_eq, List.getElem?_map]
  obtain within | beyond := Nat.lt_or_ge i leveling.height
  · rw [List.getElem?_range within]
    simp [within]
  · rw [List.getElem?_eq_none (by simpa using beyond)]
    simp [Nat.not_lt.mpr beyond]

theorem mem_levels {group : List String} :
  group ∈ leveling.levels ↔ ∃ i < leveling.height, leveling.group i = group
  := by
  rw [List.mem_iff_getElem?]
  simp only [getElem?_levels]

end Leveling

namespace Graph

variable {graph : Graph}

namespace Leveled

variable {leveling : Leveling}

theorem mem_ordered (leveled : graph.Leveled leveling) {node : String} {order : NodeOrder} :
  (node, order) ∈ leveling.ordered ↔ leveling.get? node = some order
  := ⟨lookup_of_mem leveled.nodup, mem_of_lookup⟩

theorem level_pos (leveled : graph.Leveled leveling) {entry : String × NodeOrder} (h : entry ∈ leveling.ordered) :
  0 < entry.2.level
  := by
  rw [leveled.level _ _ (leveled.mem_ordered.mp h)]
  apply Nat.succ_pos

/-- A node has a lower level than the nodes that depend on it. -/
theorem level_lt (leveled : graph.Leveled leveling) {node other : String} (edge : graph.Edge node other)
    {order order' : NodeOrder} (found : leveling.get? node = some order) (found' : leveling.get? other = some order') :
  order'.level < order.level
  := by
  rw [leveled.level node order found, ← levelOf_of_get? found', Nat.lt_succ_iff]
  exact le_greatest (List.mem_map_of_mem (mem_dependencies.mpr edge))

/-- Below the level of a node there is a node at every level. -/
theorem exists_at_level (leveled : graph.Leveled leveling) {entry : String × NodeOrder}
    (h : entry ∈ leveling.ordered) {below : Nat} (lower : below < entry.2.level) :
  ∃ node, node ∈ leveling.group below
  := by
  induction hl : entry.2.level using Nat.strong_induction_on generalizing entry with
  | h level ih =>
    obtain same | lower := Nat.eq_or_lt_of_le (Nat.succ_le_of_lt lower)
    · exact ⟨entry.1, Leveling.mem_group.mpr ⟨entry.2, h, same.symm⟩⟩
    · have level_eq := leveled.level _ _ (leveled.mem_ordered.mp h)
      have high : greatest ((graph.dependencies entry.1).map leveling.levelOf) ≠ 0 := by omega
      -- A dependency is just one level below, and it is at the level sought or above it.
      obtain ⟨dependency, hd, at_most⟩ := List.mem_map.mp (greatest_mem high)
      have edge : graph.Edge entry.1 dependency := mem_dependencies.mp hd
      obtain ⟨order, found⟩ := leveled.exists_order edge.mem_nodes
      have order_eq := levelOf_of_get? found
      have reached : below < order.level ∧ order.level < level := by omega
      exact ih order.level reached.2 (leveled.mem_ordered.mpr found) reached.1 rfl

theorem nodup_group (leveled : graph.Leveled leveling) (below : Nat) :
  (leveling.group below).Nodup
  := leveled.nodup.sublist (List.filter_sublist.map _)

/-- A node is in no two groups. -/
theorem disjoint_group (leveled : graph.Leveled leveling) {below other : Nat} (h : below ≠ other) :
  (leveling.group below).Disjoint (leveling.group other)
  := by
  intro node hn hn'
  obtain ⟨order, mem, at_below⟩ := Leveling.mem_group.mp hn
  obtain ⟨order', mem', at_other⟩ := Leveling.mem_group.mp hn'
  cases (leveled.mem_ordered.mp mem).symm.trans (leveled.mem_ordered.mp mem')
  omega

theorem grouped (leveled : graph.Leveled leveling) :
  graph.Grouped leveling
  where
  partition := by
    apply (List.perm_ext_iff_of_nodup _ graph.nodup_nodes).mpr
    · intro node
      simp only [List.mem_flatten, Leveling.mem_levels, ← leveled.nodes.mem_iff]
      constructor
      · rintro ⟨_, ⟨below, -, rfl⟩, hn⟩
        obtain ⟨order, mem, -⟩ := Leveling.mem_group.mp hn
        exact List.mem_map_of_mem mem
      · intro hn
        obtain ⟨⟨_, order⟩, mem, rfl⟩ := List.mem_map.mp hn
        have positive := leveled.level_pos mem
        have bounded := Leveling.level_le_height mem
        dsimp only at positive bounded
        refine ⟨_, ⟨order.level - 1, by omega, rfl⟩, Leveling.mem_group.mpr ⟨order, mem, by omega⟩⟩
    · rw [List.nodup_flatten]
      constructor
      · intro group hg
        obtain ⟨below, -, rfl⟩ := Leveling.mem_levels.mp hg
        exact leveled.nodup_group below
      · apply List.pairwise_map.mpr
        apply List.pairwise_lt_range.imp
        intro below other lt
        exact leveled.disjoint_group lt.ne
  nonempty := by
    intro group hg
    obtain ⟨below, bounded, rfl⟩ := Leveling.mem_levels.mp hg
    have high : greatest (leveling.ordered.map (·.2.level)) ≠ 0 := by
      rw [← leveling.height_eq]
      omega
    obtain ⟨entry, mem, top⟩ := List.mem_map.mp (greatest_mem high)
    rw [← leveling.height_eq] at top
    obtain ⟨node, hn⟩ := leveled.exists_at_level mem (top ▸ bounded)
    exact List.ne_nil_of_mem hn
  earlier := by
    intro i group at_i node hn other edge
    obtain ⟨-, rfl⟩ := Leveling.getElem?_levels.mp at_i
    obtain ⟨order, mem, level_eq⟩ := Leveling.mem_group.mp hn
    obtain ⟨order', found⟩ := leveled.exists_order edge.mem_nodes
    have mem' := leveled.mem_ordered.mpr found
    have lower := leveled.level_lt edge (leveled.mem_ordered.mp mem) found
    have positive := leveled.level_pos mem'
    have bounded := Leveling.level_le_height mem'
    dsimp only at positive bounded
    refine ⟨order'.level - 1, _, by omega, Leveling.getElem?_levels.mpr ⟨by omega, rfl⟩, ?_⟩
    exact Leveling.mem_group.mpr ⟨order', mem', by omega⟩
  sorted := by
    intro group hg
    obtain ⟨below, -, rfl⟩ := Leveling.mem_levels.mp hg
    apply List.pairwise_map.mpr
    apply ((pairwise_post leveled.post).filter _).imp_of_mem
    intro entry entry' he he' lt order order' found found'
    have known {entry : String × NodeOrder} (he : entry ∈ leveling.ordered.filter fun entry =>
        entry.2.level == below + 1) : leveling.get? entry.1 = some entry.2 :=
      leveled.mem_ordered.mp (List.mem_of_mem_filter he)
    cases (known he).symm.trans found
    cases (known he').symm.trans found'
    exact lt

end Leveled

/-- A graph without cycles is leveled and grouped in both modes, with the same levels. -/
theorem leveled_of_acyclic (acyclic : ∀ node, ¬ graph.Reaches node node) :
  ∃ plain improved, graph.level false = .ok plain ∧ graph.level true = .ok improved
    ∧ (graph.Leveled plain ∧ graph.Grouped plain) ∧ (graph.Leveled improved ∧ graph.Grouped improved)
    ∧ ∀ node, plain.levelOf node = improved.levelOf node
  := by
  have none := cyclicNodes_eq_nil_iff.mpr acyclic
  obtain ⟨plain, began, leveled⟩ := exists_leveled none false
  obtain ⟨improved, began', leveled'⟩ := exists_leveled none true
  refine ⟨plain, improved, began, began', ⟨leveled, leveled.grouped⟩, ⟨leveled', leveled'.grouped⟩, ?_⟩
  exact leveled.levelOf_unique none leveled'

/-- A graph in which a node depends on another directly and also through a third one. -/
def stacked : Graph :=
  (((ofNodes ["Vpc", "Bucket"]).addEdge "App" "Vpc").addEdge "App" "Db").addEdge "Db" "Vpc"

/-- Its levels count the longer way.  The improved leveling keeps dependencies next to what depends on them. -/
theorem leveled_stacked :
  (∀ node, ¬ stacked.Reaches node node)
    ∧ ∃ plain improved, stacked.level false = .ok plain ∧ stacked.level true = .ok improved
      ∧ plain.ordered = [("Vpc", ⟨1, 0, 0⟩), ("Bucket", ⟨1, 1, 1⟩), ("Db", ⟨2, 3, 2⟩), ("App", ⟨3, 2, 3⟩)]
      ∧ improved.ordered = [("Vpc", ⟨1, 2, 0⟩), ("Db", ⟨2, 1, 1⟩), ("App", ⟨3, 0, 2⟩), ("Bucket", ⟨1, 3, 3⟩)]
      ∧ improved.levels = [["Vpc", "Bucket"], ["Db"], ["App"]]
      ∧ stacked.Leveled improved ∧ stacked.Grouped improved
  := by
  have acyclic : ∀ node, ¬ stacked.Reaches node node := cyclicNodes_eq_nil_iff.mp (by cbv)
  obtain ⟨plain, improved, began, began', -, ⟨leveled, grouped⟩, -⟩ := leveled_of_acyclic acyclic
  have computed : stacked.level false
      = .ok ⟨[("Vpc", ⟨1, 0, 0⟩), ("Bucket", ⟨1, 1, 1⟩), ("Db", ⟨2, 3, 2⟩), ("App", ⟨3, 2, 3⟩)]⟩ := by cbv
  have computed' : stacked.level true
      = .ok ⟨[("Vpc", ⟨1, 2, 0⟩), ("Db", ⟨2, 1, 1⟩), ("App", ⟨3, 0, 2⟩), ("Bucket", ⟨1, 3, 3⟩)]⟩ := by cbv
  rw [computed] at began
  rw [computed'] at began'
  cases began
  cases began'
  exact ⟨acyclic, _, _, computed, computed', rfl, rfl, by decide, leveled, grouped⟩

end Graph

end Reconcile
