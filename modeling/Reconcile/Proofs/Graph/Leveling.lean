import Mathlib.Tactic.Common
import Reconcile.Graph.Leveling
import Reconcile.Proofs.Graph.Cycles
import Reconcile.Proofs.Graph.Edges
import Reconcile.Proofs.Outcome

/-!
# Nodes in the order of a leveling

A walk leaves a node after everything that the node depends on, and leaves none twice.  What the
walk of a visit leaves is new, and was free before the visit.  Without cycles no walk comes back to a
node that is being visited.
-/

namespace Reconcile

/-- In a list every name comes after those that it needs. -/
def Sequenced (needs : String → String → Prop) (names : List String) : Prop :=
  ∀ before name after, names = before ++ name :: after → ∀ other, needs name other → other ∈ before

theorem sequenced_nil (needs : String → String → Prop) :
  Sequenced needs []
  := by
  intro before name after h
  cases before with
  | nil => cases h
  | cons => cases h

/-- A name may follow just when everything that it needs is there. -/
theorem sequenced_concat {needs : String → String → Prop} {names : List String} {name : String} :
  Sequenced needs (names ++ [name]) ↔ Sequenced needs names ∧ ∀ other, needs name other → other ∈ names
  := by
  constructor
  · intro sequenced
    refine ⟨?_, sequenced names name [] rfl⟩
    rintro before node after rfl
    exact sequenced before node (after ++ [name]) (by simp)
  · rintro ⟨sequenced, there⟩ before node after split
    obtain rfl | ⟨butLast, last, rfl⟩ := List.eq_nil_or_concat' after
    · obtain ⟨rfl, he⟩ := List.append_inj' split rfl
      obtain rfl := List.singleton_inj.mp he
      exact there
    · rw [← List.cons_append, ← List.append_assoc] at split
      obtain ⟨he, -⟩ := List.append_inj' split rfl
      exact sequenced before node butLast he

/-- In a list whose names are related to those that come after them, a name comes after another one that it is not
related to. -/
theorem mem_after_of_pairwise {related : String → String → Prop} {before after : List String} {name other : String}
    (pairwise : (before ++ name :: after).Pairwise related) (ho : other ∈ before ++ name :: after)
    (distinct : other ≠ name) (unrelated : ¬ related other name) :
  other ∈ after
  := by
  obtain earlier | ho := List.mem_append.mp ho
  · exact absurd ((List.pairwise_append.mp pairwise).2.2 other earlier name List.mem_cons_self) unrelated
  · exact List.mem_of_ne_of_mem distinct ho

namespace Graph

/-- In a list every name comes after those that it depends on. -/
def Ordered (graph : Graph) (names : List String) : Prop :=
  ∀ before name after, names = before ++ name :: after → ∀ other, graph.Edge name other → other ∈ before

variable {graph : Graph}

theorem Ordered.nil :
  graph.Ordered []
  := sequenced_nil graph.Edge

/-- A name may follow when everything that it depends on is there. -/
theorem Ordered.concat {names : List String} (ordered : graph.Ordered names) {name : String}
    (there : ∀ other, graph.Edge name other → other ∈ names) :
  graph.Ordered (names ++ [name])
  := sequenced_concat.mpr ⟨ordered, there⟩

/-- Everything that a name depends on comes before it, also if it does so through others. -/
theorem Ordered.reaches {names : List String} (ordered : graph.Ordered names) {before after : List String}
    {name other : String} (split : names = before ++ name :: after) (reaches : graph.Reaches name other) :
  other ∈ before
  := by
  induction reaches using Relation.TransGen.head_induction_on generalizing before after with
  | single edge => exact ordered before _ after split _ edge
  | head edge _ ih =>
    obtain ⟨first, second, rfl⟩ := List.append_of_mem (ordered before _ after split _ edge)
    rw [List.append_assoc, List.cons_append] at split
    exact List.mem_append_left _ (ih split)

/-- No name depends on one that comes after it. -/
theorem Ordered.pairwise {names : List String} (ordered : graph.Ordered names) (nodup : names.Nodup) :
  names.Pairwise fun earlier later => ¬ graph.Reaches earlier later
  := by
  induction names using List.reverseRecOn with
  | nil => exact .nil
  | append_singleton names last ih =>
    have inits : graph.Ordered names := (sequenced_concat.mp ordered).1
    obtain ⟨nodup, -, apart⟩ := List.nodup_append.mp nodup
    refine List.pairwise_append.mpr ⟨ih inits nodup, List.pairwise_singleton _ _, ?_⟩
    intro name hn later hl reaches
    obtain ⟨before, after, split⟩ := List.append_of_mem hn
    have there : later ∈ names := split ▸ List.mem_append_left _ (inits.reaches split reaches)
    exact apart later there later hl rfl

/-- What depends on a name comes after it. -/
theorem Ordered.mem_after {names : List String} (ordered : graph.Ordered names) (nodup : names.Nodup)
    {before after : List String} {name other : String} (split : names = before ++ name :: after)
    (ho : other ∈ names) (reaches : graph.Reaches other name) :
  other ∈ after
  := by
  have later := ordered.pairwise nodup
  have distinct : other ≠ name := by
    rintro rfl
    have earlier : other ∈ before := ordered.reaches split reaches
    rw [split] at nodup
    exact (List.nodup_append.mp nodup).2.2 other earlier other List.mem_cons_self rfl
  rw [split] at later ho
  exact mem_after_of_pairwise later ho distinct (not_not_intro reaches)

end Graph

namespace Graph.Walk

/-- The nodes that a walk has left. -/
def left (walk : Walk) : List String := walk.done.map (·.1)

/-- A walk has left no node twice, and each after everything that it depends on. -/
structure Tidy (graph : Graph) (walk : Walk) : Prop where
  nodup : walk.left.Nodup
  ordered : graph.Ordered walk.left

/-- A walk goes on to another, and leaves only nodes that were free. -/
def GoesOn (free : List String) (walk after : Walk) : Prop :=
  ∃ new, after.left = walk.left ++ new ∧ ∀ node ∈ new, node ∈ free

variable {free : List String} {walk middle after : Walk}

theorem GoesOn.refl (free : List String) (walk : Walk) :
  walk.GoesOn free walk
  := ⟨[], (List.append_nil _).symm, nofun⟩

theorem GoesOn.trans (first : walk.GoesOn free middle) (second : middle.GoesOn free after) :
  walk.GoesOn free after
  := by
  obtain ⟨new, he, hn⟩ := first
  obtain ⟨new', he', hn'⟩ := second
  refine ⟨new ++ new', by rw [he', he, List.append_assoc], ?_⟩
  intro node hm
  exact (List.mem_append.mp hm).elim (hn node) (hn' node)

theorem GoesOn.mem_left (goesOn : walk.GoesOn free after) {node : String} (h : node ∈ walk.left) :
  node ∈ after.left
  := by
  obtain ⟨new, he, -⟩ := goesOn
  rw [he]
  exact List.mem_append_left _ h

end Graph.Walk

namespace Graph

variable {graph : Graph}

mutual

/-- A visit leaves the node, in its turn, unless that had been left before. -/
theorem visit_spec {free : List String} {node : String} {walk after : Walk} {level : Nat}
    (h : graph.visit free node walk = some (level, after)) (nodup : free.Nodup) (tidy : walk.Tidy graph) :
  after.Tidy graph ∧ walk.GoesOn free after ∧ node ∈ after.left
  := by
  rw [visit] at h
  split at h
  · next order known =>
    cases h
    exact ⟨tidy, .refl free walk, List.mem_map_of_mem (mem_of_lookup known)⟩
  · next unknown =>
    split at h
    · next isFree =>
      split at h
      · cases h
      · next below middle visited =>
        cases h
        have begun : (⟨walk.done, walk.entered + 1⟩ : Walk).Tidy graph := ⟨tidy.nodup, tidy.ordered⟩
        obtain ⟨tidy', ⟨new, he, hn⟩, there⟩ := visitAll_spec visited (nodup.erase node) begun
        have fresh : node ∉ middle.left := by
          rw [he, List.mem_append]
          rintro (left | new)
          · have found := (lookup_isSome_iff node walk.done).mpr left
            rw [unknown] at found
            cases found
          · exact nodup.not_mem_erase (hn node new)
        have left_eq : (⟨middle.done ++ [(node, ⟨below + 1, walk.entered, middle.done.length⟩)], middle.entered⟩ :
            Walk).left = middle.left ++ [node] := List.map_append
        refine ⟨⟨?_, ?_⟩, ⟨new ++ [node], ?_, ?_⟩, ?_⟩
        · rw [left_eq, List.nodup_append]
          refine ⟨tidy'.nodup, List.nodup_singleton node, ?_⟩
          intro other ho last hl
          obtain rfl := List.mem_singleton.mp hl
          rintro rfl
          exact fresh ho
        · rw [left_eq]
          apply tidy'.ordered.concat
          intro other edge
          exact there other (mem_dependencies.mpr edge)
        · rw [left_eq, he, List.append_assoc]
          rfl
        · intro other ho
          obtain ho | ho := List.mem_append.mp ho
          · exact List.mem_of_mem_erase (hn other ho)
          · obtain rfl := List.mem_singleton.mp ho
            exact isFree
        · rw [left_eq]
          exact List.mem_append_right _ List.mem_cons_self
    · cases h
termination_by (free.length, 0)
decreasing_by
  apply Prod.Lex.left
  apply length_filter_erase_lt
  assumption

/-- Visits in turn leave all of some nodes. -/
theorem visitAll_spec {free : List String} {nodes : List String} {walk after : Walk} {level : Nat}
    (h : graph.visitAll free nodes walk = some (level, after)) (nodup : free.Nodup) (tidy : walk.Tidy graph) :
  after.Tidy graph ∧ walk.GoesOn free after ∧ ∀ node ∈ nodes, node ∈ after.left
  := by
  match nodes with
  | [] =>
    rw [visitAll] at h
    cases h
    exact ⟨tidy, .refl free walk, nofun⟩
  | node :: rest =>
    rw [visitAll] at h
    split at h
    · cases h
    · next first middle visited =>
      split at h
      · cases h
      · next second last visitedAll =>
        cases h
        obtain ⟨tidy', goesOn, there⟩ := visit_spec visited nodup tidy
        obtain ⟨tidy'', goesOn', there'⟩ := visitAll_spec visitedAll nodup tidy'
        refine ⟨tidy'', goesOn.trans goesOn', ?_⟩
        intro other ho
        obtain rfl | ho := List.mem_cons.mp ho
        · exact goesOn'.mem_left there
        · exact there' other ho
termination_by (free.length, nodes.length + 1)

end

/-- The nodes of a leveling in order: none is there twice, and each comes after everything that it depends
on. -/
theorem levelFrom_spec {nodes : List String} {leveling : Leveling} (h : graph.levelFrom nodes = .ok leveling) :
  (leveling.ordered.map (·.1)).Nodup ∧ graph.Ordered (leveling.ordered.map (·.1))
    ∧ (∀ node ∈ nodes, node ∈ leveling.ordered.map (·.1)) ∧ ∀ node ∈ leveling.ordered.map (·.1), node ∈ graph.nodes
  := by
  unfold levelFrom at h
  split at h
  · next level walk visited =>
    cases h
    obtain ⟨⟨nodup, ordered⟩, ⟨new, he, hn⟩, there⟩ :=
      visitAll_spec visited graph.nodup_nodes ⟨List.nodup_nil, .nil⟩
    refine ⟨nodup, ordered, there, ?_⟩
    intro node hm
    apply hn node
    have left_eq : walk.left = new := he.trans (List.nil_append new)
    exact left_eq ▸ hm
  · cases h

/-- A leveling has all nodes. -/
theorem level_spec {improved : Bool} {leveling : Leveling} (h : graph.level improved = .ok leveling) :
  (leveling.ordered.map (·.1)).Nodup ∧ graph.Ordered (leveling.ordered.map (·.1))
    ∧ ∀ node, node ∈ leveling.ordered.map (·.1) ↔ node ∈ graph.nodes
  := by
  obtain ⟨first, begun, h⟩ := Except.bind_eq_ok.mp h
  have all {seeds : List String} (seeded : ∀ node ∈ graph.nodes, node ∈ seeds)
      (h : graph.levelFrom seeds = .ok leveling) : (leveling.ordered.map (·.1)).Nodup
        ∧ graph.Ordered (leveling.ordered.map (·.1))
        ∧ ∀ node, node ∈ leveling.ordered.map (·.1) ↔ node ∈ graph.nodes := by
    obtain ⟨nodup, ordered, there, within⟩ := levelFrom_spec h
    exact ⟨nodup, ordered, fun node => ⟨within node, fun hn => there node (seeded node hn)⟩⟩
  split at h
  · apply all _ h
    intro node hn
    rw [List.mem_reverse]
    exact (levelFrom_spec begun).2.2.1 node hn
  · cases h
    exact all (fun _ hn => hn) begun

/-! ### Graphs without cycles -/

theorem lookup_eq_none_iff {node : String} {walk : Walk} :
  lookup node walk.done = none ↔ node ∉ walk.left
  := by
  rw [Walk.left, ← lookup_isSome_iff, Option.not_isSome_iff_eq_none]

mutual

/-- A visit succeeds when whatever is neither left nor free is being visited on the way to the node. -/
theorem exists_visit (acyclic : graph.cyclicNodes = []) {free : List String} {node : String} {walk : Walk}
    (nodup : free.Nodup) (tidy : walk.Tidy graph) (hn : node ∈ graph.nodes)
    (placed : ∀ other ∈ graph.nodes, other ∈ walk.left ∨ other ∈ free ∨ graph.Reaches other node) :
  ∃ level after, graph.visit free node walk = some (level, after)
  := by
  rw [visit]
  split
  · exact ⟨_, _, rfl⟩
  · next unknown =>
    have uncyclic : ¬ graph.Reaches node node := by
      rw [← mem_cyclicNodes, acyclic]
      apply List.not_mem_nil
    have isFree : node ∈ free :=
      ((placed node hn).resolve_left (lookup_eq_none_iff.mp unknown)).resolve_right uncyclic
    rw [if_pos isFree]
    have begun : (⟨walk.done, walk.entered + 1⟩ : Walk).Tidy graph := ⟨tidy.nodup, tidy.ordered⟩
    have edge {dependency : String} (hd : dependency ∈ graph.dependencies node) : graph.Edge node dependency :=
      mem_dependencies.mp hd
    obtain ⟨below, after, visited⟩ := exists_visitAll acyclic (nodup.erase node) begun
        (fun dependency hd => (edge hd).mem_nodes) <| by
      intro dependency hd other ho
      by_cases he : other = node
      · exact .inr (.inr (he ▸ .single (edge hd)))
      · rw [List.mem_erase_of_ne he]
        exact (placed other ho).imp_right (.imp_right fun reaches => reaches.tail (edge hd))
    rw [visited]
    exact ⟨_, _, rfl⟩
termination_by (free.length, 0)
decreasing_by
  apply Prod.Lex.left
  apply length_filter_erase_lt
  assumption

theorem exists_visitAll (acyclic : graph.cyclicNodes = []) {free nodes : List String} {walk : Walk}
    (nodup : free.Nodup) (tidy : walk.Tidy graph) (hn : ∀ node ∈ nodes, node ∈ graph.nodes)
    (placed : ∀ node ∈ nodes, ∀ other ∈ graph.nodes,
      other ∈ walk.left ∨ other ∈ free ∨ graph.Reaches other node) :
  ∃ level after, graph.visitAll free nodes walk = some (level, after)
  := by
  match nodes with
  | [] =>
    rw [visitAll]
    exact ⟨_, _, rfl⟩
  | node :: rest =>
    obtain ⟨level, middle, visited⟩ := exists_visit acyclic nodup tidy (hn node List.mem_cons_self)
      (placed node List.mem_cons_self)
    obtain ⟨tidy', goesOn, -⟩ := visit_spec visited nodup tidy
    have later {next : String} (hm : next ∈ rest) : next ∈ node :: rest := List.mem_cons_of_mem node hm
    obtain ⟨below, after, visitedAll⟩ :=
        exists_visitAll acyclic nodup tidy' (fun next hm => hn next (later hm)) <| by
      intro next hm other ho
      exact (placed next (later hm) other ho).imp_left goesOn.mem_left
    rw [visitAll, visited]
    dsimp only
    rw [visitedAll]
    exact ⟨_, _, rfl⟩
termination_by (free.length, nodes.length + 1)

end

theorem exists_levelFrom (acyclic : graph.cyclicNodes = []) {nodes : List String}
    (hn : ∀ node ∈ nodes, node ∈ graph.nodes) :
  ∃ leveling, graph.levelFrom nodes = .ok leveling
  := by
  have begun : ({} : Walk).Tidy graph := ⟨List.nodup_nil, .nil⟩
  obtain ⟨level, walk, visited⟩ :=
    exists_visitAll acyclic graph.nodup_nodes begun hn fun _ _ other ho => .inr (.inl ho)
  rw [levelFrom, visited]
  exact ⟨_, rfl⟩

/-- A graph without cycles has a leveling. -/
theorem exists_level (acyclic : graph.cyclicNodes = []) (improved : Bool) :
  ∃ leveling, graph.level improved = .ok leveling
  := by
  obtain ⟨first, begun⟩ : ∃ first, graph.levelFrom graph.nodes = .ok first :=
    exists_levelFrom acyclic fun _ hn => hn
  rw [level, begun]
  cases improved with
  | false => exact ⟨first, rfl⟩
  | true =>
    apply exists_levelFrom acyclic
    intro node hn
    exact (levelFrom_spec begun).2.2.2 node (List.mem_reverse.mp hn)

end Graph

end Reconcile
