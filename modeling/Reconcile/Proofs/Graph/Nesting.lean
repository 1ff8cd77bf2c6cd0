import Mathlib.Tactic.Common
import Reconcile.Proofs.Graph.Levels

/-!
# Nodes inside the visits of their dependents

A walk enters a node at which it does not begin while it visits one that depends on it, and leaves it again
before it leaves that one.  The nodes that the first walk of an improved leveling leaves last are
those at which the second one begins, so that it comes to a node that others depend on in the visit of one
of these: the second walk begins just at the nodes that nothing depends on.
-/

namespace Reconcile

/-- The visit of a node lies inside that of another one. -/
def Leveling.Inside (leveling : Leveling) (node other : String) : Prop :=
  ∃ order order', leveling.get? node = some order ∧ leveling.get? other = some order'
    ∧ order'.pre < order.pre ∧ order.post < order'.post

namespace Graph

variable {graph : Graph}

/-! ### Visits inside others -/

namespace Walk

/-- A walk goes on to another one by visits of some nodes in turn, which leave the new entries. -/
structure Visits (graph : Graph) (nodes : List String) (walk after : Walk) (new : List (String × NodeOrder)) :
    Prop where
  done : after.done = walk.done ++ new
  entered : walk.entered ≤ after.entered
  /-- The visits of the new entries lie within these visits. -/
  within : ∀ entry ∈ new, walk.entered ≤ entry.2.pre ∧ entry.2.post < after.done.length
  /-- A new entry of which no visit was asked for is visited inside the visit of one that depends on it. -/
  inside : ∀ entry ∈ new, entry.1 ∈ nodes
    ∨ ∃ parent ∈ new, graph.Edge parent.1 entry.1 ∧ parent.2.pre < entry.2.pre ∧ entry.2.post < parent.2.post

namespace Visits

variable {walk middle after : Walk} {new new' : List (String × NodeOrder)} {first second : List String}

theorem refl (graph : Graph) (nodes : List String) (walk : Walk) :
  Visits graph nodes walk walk []
  := ⟨(List.append_nil _).symm, Nat.le_refl _, nofun, nofun⟩

theorem trans (visits : Visits graph first walk middle new) (visits' : Visits graph second middle after new') :
  Visits graph (first ++ second) walk after (new ++ new')
  := by
  have longer : middle.done.length ≤ after.done.length := by simp [visits'.done]
  refine ⟨by rw [visits'.done, visits.done, List.append_assoc], visits.entered.trans visits'.entered, ?_, ?_⟩
  · intro entry he
    obtain he | he := List.mem_append.mp he
    · exact (visits.within entry he).imp_right longer.trans_lt'
    · exact (visits'.within entry he).imp_left visits.entered.trans
  · intro entry he
    obtain he | he := List.mem_append.mp he
    · apply (visits.inside entry he).imp (List.mem_append_left second)
      rintro ⟨parent, hp, inside⟩
      exact ⟨parent, List.mem_append_left new' hp, inside⟩
    · apply (visits'.inside entry he).imp (List.mem_append_right first)
      rintro ⟨parent, hp, inside⟩
      exact ⟨parent, List.mem_append_right new hp, inside⟩

/-- The visit of a node has the visits of its dependencies inside. -/
theorem leave {node : String} {level : Nat}
    (visits : Visits graph (graph.dependencies node) ⟨walk.done, walk.entered + 1⟩ middle new) :
  Visits graph [node] walk ⟨middle.done ++ [(node, ⟨level, walk.entered, middle.done.length⟩)], middle.entered⟩
    (new ++ [(node, ⟨level, walk.entered, middle.done.length⟩)])
  := by
  have entered : walk.entered + 1 ≤ middle.entered := visits.entered
  have last : (node, ⟨level, walk.entered, middle.done.length⟩)
      ∈ new ++ [(node, (⟨level, walk.entered, middle.done.length⟩ : NodeOrder))] :=
    List.mem_append_right new List.mem_cons_self
  have within {entry : String × NodeOrder} (he : entry ∈ new) :
      walk.entered < entry.2.pre ∧ entry.2.post < middle.done.length := visits.within entry he
  refine ⟨by rw [visits.done, List.append_assoc], by dsimp only; omega, ?_, ?_⟩
  · intro entry he
    rw [List.length_append, List.length_singleton, Nat.lt_succ_iff]
    obtain he | he := List.mem_append.mp he
    · exact (within he).imp Nat.le_of_lt Nat.le_of_lt
    · obtain rfl := List.mem_singleton.mp he
      exact ⟨Nat.le_refl _, Nat.le_refl _⟩
  · intro entry he
    obtain he | he := List.mem_append.mp he
    · right
      obtain asked | ⟨parent, hp, inside⟩ := visits.inside entry he
      · exact ⟨_, last, mem_dependencies.mp asked, within he⟩
      · exact ⟨parent, List.mem_append_left _ hp, inside⟩
    · obtain rfl := List.mem_singleton.mp he
      exact .inl List.mem_cons_self

end Visits

end Walk

mutual

theorem visit_visits {free : List String} {node : String} {walk after : Walk} {level : Nat}
    (h : graph.visit free node walk = some (level, after)) :
  ∃ new, Walk.Visits graph [node] walk after new
  := by
  rw [visit] at h
  split at h
  · cases h
    exact ⟨[], .refl graph [node] walk⟩
  · split at h
    · split at h
      · cases h
      · next below middle visited =>
        cases h
        obtain ⟨new, visits⟩ := visitAll_visits visited
        exact ⟨_, visits.leave⟩
    · cases h
termination_by (free.length, 0)
decreasing_by
  apply Prod.Lex.left
  apply length_filter_erase_lt
  assumption

theorem visitAll_visits {free nodes : List String} {walk after : Walk} {level : Nat}
    (h : graph.visitAll free nodes walk = some (level, after)) :
  ∃ new, Walk.Visits graph nodes walk after new
  := by
  match nodes with
  | [] =>
    rw [visitAll] at h
    cases h
    exact ⟨[], .refl graph [] walk⟩
  | node :: rest =>
    rw [visitAll] at h
    split at h
    · cases h
    · next first middle visited =>
      split at h
      · cases h
      · next second last visitedAll =>
        cases h
        obtain ⟨new, visits⟩ := visit_visits visited
        obtain ⟨new', visits'⟩ := visitAll_visits visitedAll
        exact ⟨new ++ new', visits.trans visits'⟩
termination_by (free.length, nodes.length + 1)

end

theorem visitAll_append {free first second : List String} {walk after : Walk} {level : Nat}
    (h : graph.visitAll free (first ++ second) walk = some (level, after)) :
  ∃ level middle, graph.visitAll free first walk = some (level, middle)
    ∧ ∃ level', graph.visitAll free second middle = some (level', after)
  := by
  induction first generalizing walk level with
  | nil => exact ⟨0, walk, by rw [visitAll], level, h⟩
  | cons node first ih =>
    rw [List.cons_append, visitAll] at h
    split at h
    · cases h
    · next above next visited =>
      split at h
      · cases h
      · next below last visitedAll =>
        cases h
        obtain ⟨below', middle, visited', rest⟩ := ih visitedAll
        refine ⟨max above below', middle, ?_, rest⟩
        rw [visitAll, visited]
        dsimp only
        rw [visited']

/-! ### The nodes at which a walk begins -/

/-- A walk that is to begin at some nodes in turn begins at one of them: it has not visited the node before. -/
def Begins (graph : Graph) (seeds : List String) (node : String) : Prop :=
  ∃ before after level walk, seeds = before ++ node :: after
    ∧ graph.visitAll graph.nodes before {} = some (level, walk) ∧ node ∉ walk.left

/-- Seeds of a walk: each node once, and after those that depend on it. -/
structure Seeds (graph : Graph) (seeds : List String) : Prop where
  nodup : seeds.Nodup
  mem_iff : ∀ node, node ∈ seeds ↔ node ∈ graph.nodes
  before : ∀ before node after, seeds = before ++ node :: after → ∀ other, graph.Edge other node → other ∈ before

/-- The nodes that a walk left last come first. -/
theorem seeds_reverse {names : List String} (nodup : names.Nodup) (ordered : graph.Ordered names)
    (all : ∀ node, node ∈ names ↔ node ∈ graph.nodes) :
  graph.Seeds names.reverse
  where
  nodup := List.nodup_reverse.mpr nodup
  mem_iff := fun node => List.mem_reverse.trans (all node)
  before := by
    intro before node after split other edge
    have split' : names = after.reverse ++ node :: before.reverse := by
      rw [← names.reverse_reverse, split, List.reverse_append, List.reverse_cons, List.append_assoc]
      rfl
    apply List.mem_reverse.mp
    exact ordered.mem_after nodup split' ((all other).mpr (graph.source_mem _ edge)) (.single edge)

namespace Seeds

variable {seeds before after : List String} {node : String} {level : Nat} {walk : Walk}

theorem not_mem_before (hs : graph.Seeds seeds) (split : seeds = before ++ node :: after) :
  node ∉ before
  := by
  intro earlier
  have nodup := hs.nodup
  rw [split] at nodup
  exact (List.nodup_append.mp nodup).2.2 node earlier node List.mem_cons_self rfl

/-- When the walk comes to a node on which others depend, it has visited it inside the visit of one of these. -/
theorem exists_parent (split : seeds = before ++ node :: after) (hs : graph.Seeds seeds)
    (visited : graph.visitAll graph.nodes before {} = some (level, walk)) (left : node ∈ walk.left) :
  ∃ order, (node, order) ∈ walk.done ∧ ∃ parent ∈ walk.done, graph.Edge parent.1 node
    ∧ parent.2.pre < order.pre ∧ order.post < parent.2.post
  := by
  obtain ⟨new, visits⟩ := visitAll_visits visited
  obtain rfl : walk.done = new := visits.done
  obtain ⟨⟨_, order⟩, he, rfl⟩ := List.mem_map.mp left
  exact ⟨order, he, (visits.inside _ he).resolve_left (hs.not_mem_before split)⟩

/-- A node on which others depend has been visited when the walk comes to it. -/
theorem mem_left (hs : graph.Seeds seeds) (split : seeds = before ++ node :: after)
    (visited : graph.visitAll graph.nodes before {} = some (level, walk)) {other : String}
    (edge : graph.Edge other node) :
  node ∈ walk.left
  := by
  obtain ⟨tidy, -, there⟩ := visitAll_spec visited graph.nodup_nodes ⟨List.nodup_nil, .nil⟩
  obtain ⟨first, second, left⟩ := List.append_of_mem (there other (hs.before before node after split other edge))
  rw [left]
  exact List.mem_append_left _ (tidy.ordered first other second left node edge)

end Seeds

/-- A leveling in which dependencies are next to what depends on them. -/
structure Nested (graph : Graph) (seeds : List String) (leveling : Leveling) : Prop where
  /-- A node on which others depend is visited inside the visit of one of these. -/
  inside : ∀ node other, graph.Edge other node → ∃ parent, graph.Edge parent node ∧ leveling.Inside node parent
  /-- The walk begins just at the nodes on which nothing depends. -/
  begins : ∀ node, graph.Begins seeds node ↔ node ∈ graph.nodes ∧ ∀ other, ¬ graph.Edge other node

theorem nested_of_levelFrom {seeds : List String} {leveling : Leveling} (hs : graph.Seeds seeds)
    (h : graph.levelFrom seeds = .ok leveling) :
  graph.Nested seeds leveling
  := by
  have nodup : (leveling.ordered.map (·.1)).Nodup := (levelFrom_spec h).1
  unfold levelFrom at h
  split at h
  case h_2 => cases h
  case h_1 level walk visited =>
    cases h
    -- The part of the walk before it comes to a node.
    have reached {node : String} {before after : List String} (split : seeds = before ++ node :: after) :
        ∃ level middle, graph.visitAll graph.nodes before {} = some (level, middle)
          ∧ ∀ entry ∈ middle.done, lookup entry.1 walk.done = some entry.2 := by
      rw [split] at visited
      obtain ⟨level, middle, visited', _, rest⟩ := visitAll_append visited
      refine ⟨level, middle, visited', ?_⟩
      obtain ⟨new, visits⟩ := visitAll_visits rest
      intro entry he
      apply lookup_of_mem nodup
      rw [visits.done]
      exact List.mem_append_left new he
    constructor
    · intro node other edge
      obtain ⟨before, after, split⟩ := List.append_of_mem ((hs.mem_iff node).mpr edge.mem_nodes)
      obtain ⟨_, middle, visited', known⟩ := reached split
      obtain ⟨order, he, parent, hp, edge', inside⟩ :=
        Seeds.exists_parent split hs visited' (hs.mem_left split visited' edge)
      exact ⟨parent.1, edge', order, parent.2, known _ he, known _ hp, inside⟩
    · intro node
      constructor
      · rintro ⟨before, after, level, middle, split, visited', fresh⟩
        constructor
        · rw [← hs.mem_iff, split]
          exact List.mem_append_right _ List.mem_cons_self
        · intro other edge
          exact fresh (hs.mem_left split visited' edge)
      · rintro ⟨hn, free⟩
        obtain ⟨before, after, split⟩ := List.append_of_mem ((hs.mem_iff node).mpr hn)
        obtain ⟨level, middle, visited', -⟩ := reached split
        refine ⟨before, after, level, middle, split, visited', ?_⟩
        intro left
        obtain ⟨_, _, parent, _, edge, -⟩ := Seeds.exists_parent split hs visited' left
        exact free parent.1 edge

/-- The improved leveling of a graph without cycles comes of a walk that begins just at the nodes on which nothing
depends, and visits every other one inside the visit of a node that depends on it. -/
theorem nested_of_acyclic (acyclic : ∀ node, ¬ graph.Reaches node node) :
  ∃ first improved, graph.level false = .ok first ∧ graph.level true = .ok improved
    ∧ graph.levelFrom (first.ordered.map (·.1)).reverse = .ok improved
    ∧ graph.Nested (first.ordered.map (·.1)).reverse improved
  := by
  have none := cyclicNodes_eq_nil_iff.mpr acyclic
  obtain ⟨first, plain⟩ := exists_level none false
  obtain ⟨improved, leveled⟩ := exists_level none true
  obtain ⟨nodup, ordered, all⟩ := level_spec plain
  have again : graph.levelFrom (first.ordered.map (·.1)).reverse = .ok improved := by
    obtain ⟨first', begun, again⟩ := Except.bind_eq_ok.mp leveled
    obtain ⟨first'', begun', unchanged⟩ := Except.bind_eq_ok.mp plain
    cases begun.symm.trans begun'
    cases unchanged
    exact again
  exact ⟨first, improved, plain, leveled, again, nested_of_levelFrom (seeds_reverse nodup ordered all) again⟩

/-- A node on which two others depend is visited inside the visit of the one that depends on the other.  A walk that
takes the nodes in order of addition begins at it. -/
theorem nested_stacked :
  (∀ node, ¬ stacked.Reaches node node)
    ∧ ∃ improved, stacked.level true = .ok improved ∧ stacked.Nested ["App", "Db", "Bucket", "Vpc"] improved
      ∧ improved.Inside "Vpc" "Db" ∧ stacked.Begins ["Vpc", "Bucket", "App", "Db"] "Vpc"
  := by
  have acyclic : ∀ node, ¬ stacked.Reaches node node := cyclicNodes_eq_nil_iff.mp (by cbv)
  obtain ⟨first, improved, plain, leveled, -, nested⟩ := nested_of_acyclic acyclic
  have computed : stacked.level false
      = .ok ⟨[("Vpc", ⟨1, 0, 0⟩), ("Bucket", ⟨1, 1, 1⟩), ("Db", ⟨2, 3, 2⟩), ("App", ⟨3, 2, 3⟩)]⟩ := by cbv
  have computed' : stacked.level true
      = .ok ⟨[("Vpc", ⟨1, 2, 0⟩), ("Db", ⟨2, 1, 1⟩), ("App", ⟨3, 0, 2⟩), ("Bucket", ⟨1, 3, 3⟩)]⟩ := by cbv
  cases computed.symm.trans plain
  cases computed'.symm.trans leveled
  refine ⟨acyclic, _, computed', nested, ⟨_, _, rfl, rfl, by decide, by decide⟩, ?_⟩
  exact ⟨[], _, 0, {}, rfl, by rw [visitAll], List.not_mem_nil⟩

end Graph

end Reconcile
