import Mathlib.Data.List.Destutter
import Mathlib.Data.List.Forall2
import Reconcile.Proofs.Graph.Additions

/-!
# Numbered graphs

A graph of names can be kept by numbers: each name has the number of its first mention, a table finds the number of a
name, and the edges lead from number to number.  Every addition keeps the names, the table and the edges in step, so
that the views of a numbered graph are those of the graph of names that the same additions make.
-/

namespace Reconcile

/-- A graph kept by numbers. -/
structure Numbered where
  /-- The names by their numbers, which count from zero. -/
  labels : List String := []
  /-- The number of a name. -/
  numbers : Table Nat := .empty
  /-- The edges between numbers, in order of addition. -/
  arcs : List (Nat × Nat) := []

/-- Names in alphabetical order without repetition: those next to an equal one are left out. -/
def listing (names : List String) : List String := (alphabetical names).destutter (· ≠ ·)

namespace Numbered

/-- A numbered graph with a name, and the number of the name: a new one unless it has one. -/
def ensure (kept : Numbered) (name : String) : Numbered × Nat :=
  match kept.numbers.get? name with
  | some number => (kept, number)
  | none =>
    let number := kept.labels.length
    ({ kept with labels := kept.labels ++ [name], numbers := kept.numbers.insert name number }, number)

/-- A numbered graph with an edge, unless it is there. -/
def connect (kept : Numbered) (arc : Nat × Nat) : Numbered :=
  { kept with arcs := if arc ∈ kept.arcs then kept.arcs else kept.arcs ++ [arc] }

/-- A numbered graph with an addition. -/
def add (kept : Numbered) : Addition → Numbered
  | .node name => (kept.ensure name).1
  | .edge source target =>
    let (kept, tail) := kept.ensure source
    let (kept, head) := kept.ensure target
    kept.connect (tail, head)

/-- The numbered graph that some additions make. -/
def ofAdditions (additions : List Addition) : Numbered := additions.foldl add {}

/-- The names that some edges lead to from a name, the latest edge first, put in order; there is no answer when one of
them leads to a number without a name. -/
def neighbors (kept : Numbered) (direction : Direction) (name : String) : Option (List String) :=
  match kept.numbers.get? name with
  | none => some []
  | some number =>
    let reached := (kept.arcs.reverse.filter fun arc => direction.near arc == number).map direction.far
    (reached.mapM (kept.labels[·]?)).map listing

/-- The table of the names with what they depend on directly. -/
def adjacency (kept : Numbered) : Option (Table (List String)) :=
  (kept.labels.mapM fun name => (kept.neighbors .outgoing name).map (name, ·)).map Table.ofList

/-- A numbered graph shows some views: each of its own can be had and is the same. -/
structure Shows (kept : Numbered) (views : Views) : Prop where
  logicalIds : kept.labels = views.logicalIds
  contains : ∀ name, kept.numbers.contains name = views.contains name
  dependencies : ∀ name, kept.neighbors .outgoing name = some (views.dependencies name)
  dependents : ∀ name, kept.neighbors .incoming name = some (views.dependents name)
  edgeCount : kept.arcs.length = views.edgeCount
  adjacency : kept.adjacency.map Table.entries = some views.adjacency

/-! ### Ends of edges -/

/-- The numbers at the ends of an edge are those of its names. -/
def Ends (nodes : List String) (arc : Nat × Nat) (edge : String × String) : Prop :=
  nodes[arc.1]? = some edge.1 ∧ nodes[arc.2]? = some edge.2

theorem getElem?_append_of_eq_some {nodes : List String} {number : Nat} {name : String}
    (h : nodes[number]? = some name) (more : List String) :
  (nodes ++ more)[number]? = some name
  := by
  obtain ⟨inside, -⟩ := List.getElem?_eq_some_iff.mp h
  rw [List.getElem?_append_left inside, h]

/-- The last number is that of a new name, and the others stay as they are. -/
theorem getElem?_concat_eq_some_iff {nodes : List String} {name : String} (fresh : name ∉ nodes) {number : Nat}
    {other : String} :
  (nodes ++ [name])[number]? = some other
    ↔ if other = name then number = nodes.length else nodes[number]? = some other
  := by
  constructor
  · intro h
    obtain inside | rfl | beyond := lt_trichotomy number nodes.length
    · rw [List.getElem?_append_left inside] at h
      rw [if_neg, h]
      rintro rfl
      exact fresh (List.mem_of_getElem? h)
    · rw [List.getElem?_concat_length, Option.some.injEq] at h
      rw [if_pos h.symm]
    · rw [List.getElem?_eq_none (by rw [List.length_append, List.length_singleton]; omega)] at h
      cases h
  · intro h
    split at h
    · next same => rw [h, same, List.getElem?_concat_length]
    · exact getElem?_append_of_eq_some h _

theorem Ends.append {nodes : List String} {arc : Nat × Nat} {edge : String × String} (ends : Ends nodes arc edge)
    (more : List String) :
  Ends (nodes ++ more) arc edge
  := ⟨getElem?_append_of_eq_some ends.1 more, getElem?_append_of_eq_some ends.2 more⟩

/-- No name has two numbers. -/
theorem number_unique {nodes : List String} (nodup : nodes.Nodup) {number number' : Nat} {name : String}
    (h : nodes[number]? = some name) (h' : nodes[number']? = some name) :
  number = number'
  := by
  obtain ⟨inside, -⟩ := List.getElem?_eq_some_iff.mp h
  exact (List.getElem?_inj inside nodup).mp (h.trans h'.symm)

theorem Ends.eq_iff {nodes : List String} (nodup : nodes.Nodup) {arc arc' : Nat × Nat} {edge edge' : String × String}
    (ends : Ends nodes arc edge) (ends' : Ends nodes arc' edge') :
  arc = arc' ↔ edge = edge'
  := by
  constructor
  · rintro rfl
    apply Prod.ext
    · exact Option.some.inj (ends.1.symm.trans ends'.1)
    · exact Option.some.inj (ends.2.symm.trans ends'.2)
  · rintro rfl
    apply Prod.ext
    · exact number_unique nodup ends.1 ends'.1
    · exact number_unique nodup ends.2 ends'.2

theorem Ends.mem_iff {nodes : List String} (nodup : nodes.Nodup) {arc : Nat × Nat} {edge : String × String}
    (ends : Ends nodes arc edge) {arcs : List (Nat × Nat)} {edges : List (String × String)}
    (related : List.Forall₂ (Ends nodes) arcs edges) :
  arc ∈ arcs ↔ edge ∈ edges
  := by
  induction related with
  | nil => simp
  | cons first rest ih => rw [List.mem_cons, List.mem_cons, ih, ends.eq_iff nodup first]

theorem Ends.near {nodes : List String} {arc : Nat × Nat} {edge : String × String} (ends : Ends nodes arc edge)
    (direction : Direction) :
  nodes[direction.near arc]? = some (direction.near edge)
  := by
  cases direction with
  | outgoing => exact ends.1
  | incoming => exact ends.2

theorem Ends.far {nodes : List String} {arc : Nat × Nat} {edge : String × String} (ends : Ends nodes arc edge)
    (direction : Direction) :
  nodes[direction.far arc]? = some (direction.far edge)
  := by
  cases direction with
  | outgoing => exact ends.2
  | incoming => exact ends.1

theorem Ends.near_eq_iff {nodes : List String} (nodup : nodes.Nodup) {arc : Nat × Nat} {edge : String × String}
    (ends : Ends nodes arc edge) (direction : Direction) {number : Nat} {name : String}
    (h : nodes[number]? = some name) :
  direction.near arc = number ↔ direction.near edge = name
  := by
  constructor
  · rintro rfl
    exact Option.some.inj ((ends.near direction).symm.trans h)
  · rintro rfl
    exact number_unique nodup (ends.near direction) h

/-! ### What every addition keeps -/

/-- A numbered graph keeps a graph of names: the names and the table agree, and so do the edges. -/
structure Keeps (kept : Numbered) (graph : Graph) : Prop where
  labels : kept.labels = graph.nodes
  numbers : ∀ name number, kept.numbers.get? name = some number ↔ graph.nodes[number]? = some name
  arcs : List.Forall₂ (Ends graph.nodes) kept.arcs graph.edges

theorem keeps_empty :
  Keeps {} Graph.empty where
  labels := rfl
  numbers name number := by simp [Graph.empty]
  arcs := .nil

/-- A name keeps its number when another is added. -/
theorem getElem?_addNode_of_eq_some {graph : Graph} {number : Nat} {name : String}
    (h : graph.nodes[number]? = some name) (other : String) :
  (graph.addNode other).nodes[number]? = some name
  := by
  rw [Graph.nodes_addNode]
  split
  · exact h
  · exact getElem?_append_of_eq_some h _

namespace Keeps

variable {kept : Numbered} {graph : Graph}

theorem mem_nodes_iff (keeps : kept.Keeps graph) {name : String} :
  name ∈ graph.nodes ↔ ∃ number, kept.numbers.get? name = some number
  := by
  simp only [keeps.numbers, List.mem_iff_getElem?]

theorem get?_eq_none_iff (keeps : kept.Keeps graph) {name : String} :
  kept.numbers.get? name = none ↔ name ∉ graph.nodes
  := by
  rw [keeps.mem_nodes_iff, ← Option.isSome_iff_exists, Option.not_isSome_iff_eq_none]

/-- Numbering a name keeps what is kept, and the name has its number. -/
theorem ensure (keeps : kept.Keeps graph) (name : String) :
  (kept.ensure name).1.Keeps (graph.addNode name)
    ∧ (graph.addNode name).nodes[(kept.ensure name).2]? = some name
  := by
  cases found : kept.numbers.get? name with
  | some number =>
    have here : graph.addNode name = graph := dif_pos (keeps.mem_nodes_iff.mpr ⟨number, found⟩)
    rw [Numbered.ensure, found, here]
    exact ⟨keeps, (keeps.numbers name number).mp found⟩
  | none =>
    -- the new name has the number one past the last, so that the others keep theirs
    have fresh := keeps.get?_eq_none_iff.mp found
    have nodes : (graph.addNode name).nodes = graph.nodes ++ [name] := by rw [Graph.nodes_addNode, if_neg fresh]
    rw [Numbered.ensure, found]
    refine ⟨⟨?_, ?_, ?_⟩, ?_⟩
    · rw [nodes, keeps.labels]
    · intro other number
      rw [Table.get?_insert, nodes, getElem?_concat_eq_some_iff fresh, keeps.labels]
      split
      · rw [Option.some.injEq, eq_comm]
      · apply keeps.numbers
    · rw [Graph.edges_addNode, nodes]
      exact keeps.arcs.imp fun _ _ ends => ends.append _
    · rw [nodes, keeps.labels, List.getElem?_concat_length]

/-- Connecting the numbers of two names keeps what is kept. -/
theorem connect {source target : String} (keeps : kept.Keeps ((graph.addNode source).addNode target))
    {arc : Nat × Nat} (ends : Ends ((graph.addNode source).addNode target).nodes arc (source, target)) :
  (kept.connect arc).Keeps (graph.addEdge source target)
  := by
  have nodes := graph.nodes_addEdge source target
  have arcs := keeps.arcs
  have present := ends.mem_iff (Graph.nodup_nodes _) arcs
  rw [Graph.edges_addNode, Graph.edges_addNode] at arcs present
  constructor
  · rw [nodes]
    exact keeps.labels
  · rw [nodes]
    exact keeps.numbers
  · rw [Numbered.connect, nodes, Graph.edges_addEdge, if_congr present rfl rfl]
    split
    · exact arcs
    · exact List.rel_append arcs (.cons ends .nil)

theorem add (keeps : kept.Keeps graph) (addition : Addition) :
  (kept.add addition).Keeps (graph.add addition)
  := by
  cases addition with
  | node name => exact (keeps.ensure name).1
  | edge source target =>
    obtain ⟨first, tail⟩ := keeps.ensure source
    obtain ⟨second, head⟩ := first.ensure target
    -- the second name may be new, and the number of the first stays the same
    exact second.connect ⟨getElem?_addNode_of_eq_some tail target, head⟩

theorem foldl_add (keeps : kept.Keeps graph) (additions : List Addition) :
  (additions.foldl Numbered.add kept).Keeps (additions.foldl Graph.add graph)
  := by
  induction additions generalizing kept graph with
  | nil => exact keeps
  | cons addition rest ih => exact ih (keeps.add addition)

end Keeps

theorem keeps_ofAdditions (additions : List Addition) :
  (ofAdditions additions).Keeps (Graph.ofAdditions additions)
  := keeps_empty.foldl_add additions

/-! ### Views -/

theorem mapM_eq_some_of_forall₂ {α β : Type} {f : α → Option β} {items : List α} {results : List β}
    (h : List.Forall₂ (fun item result => f item = some result) items results) :
  items.mapM f = some results
  := by
  induction h with
  | nil => rfl
  | cons first rest ih => simp [first, ih]

/-- The numbers that edges lead to have names, and these are the names that the edges lead to. -/
theorem Ends.mapM_far {nodes : List String} {arcs : List (Nat × Nat)} {edges : List (String × String)}
    (related : List.Forall₂ (Ends nodes) arcs edges) (direction : Direction) :
  (arcs.map direction.far).mapM (nodes[·]?) = some (edges.map direction.far)
  := by
  apply mapM_eq_some_of_forall₂
  rw [List.forall₂_map_left_iff, List.forall₂_map_right_iff]
  exact related.imp fun _ _ ends => ends.far direction

/-- However names are ordered, their listing is that of the same names without repetition. -/
theorem listing_eq_alphabetical {names names' : List String} (perm : names.Perm names') (nodup : names'.Nodup) :
  listing names = alphabetical names'
  := by
  have same : alphabetical names = alphabetical names' := by
    apply List.Perm.eq_of_pairwise _ (pairwise_alphabetical names) (pairwise_alphabetical names')
    · exact (List.mergeSort_perm _ _).trans (perm.trans (List.mergeSort_perm _ _).symm)
    · intro a b _ _ le ge
      exact String.le_antisymm le ge
  rw [listing, same]
  apply List.destutter_of_isChain
  apply List.Pairwise.isChain
  apply (pairwise_lt_alphabetical nodup).imp
  rintro a _ less rfl
  exact String.lt_irrefl a less

namespace Keeps

variable {kept : Numbered} {graph : Graph}

/-- The edges that begin at a name are those of its number, in the same order. -/
theorem filter_near (keeps : kept.Keeps graph) (direction : Direction) {number : Nat} {name : String}
    (h : graph.nodes[number]? = some name) :
  List.Forall₂ (Ends graph.nodes) (kept.arcs.reverse.filter fun arc => direction.near arc == number)
    (graph.edges.reverse.filter fun edge => direction.near edge == name)
  := by
  apply List.rel_filter _ (List.forall₂_reverse_iff.mpr keeps.arcs)
  intro arc edge ends
  simp only [beq_iff_eq]
  exact ends.near_eq_iff graph.nodup_nodes direction h

theorem neighbors_eq (keeps : kept.Keeps graph) (direction : Direction) (name : String) :
  kept.neighbors direction name = some (alphabetical (graph.neighbors direction name))
  := by
  unfold Numbered.neighbors
  cases found : kept.numbers.get? name with
  | none =>
    rw [graph.neighbors_eq_nil direction (keeps.get?_eq_none_iff.mp found)]
    simp [alphabetical]
  | some number =>
    have related := keeps.filter_near direction ((keeps.numbers name number).mp found)
    -- the latest edge comes first here, which makes no difference to the listing
    have reordered : ((graph.edges.reverse.filter fun edge => direction.near edge == name).map direction.far).Perm
        (graph.neighbors direction name) := by
      rw [List.filter_reverse]
      exact (List.reverse_perm _).map _
    dsimp only
    rw [keeps.labels, Ends.mapM_far related, Option.map_some,
      listing_eq_alphabetical reordered (graph.nodup_neighbors direction name)]

theorem dependencies (keeps : kept.Keeps graph) (name : String) :
  kept.neighbors .outgoing name = some (graph.dependencies name)
  := keeps.neighbors_eq .outgoing name

theorem dependents (keeps : kept.Keeps graph) (name : String) :
  kept.neighbors .incoming name = some (graph.dependents name)
  := keeps.neighbors_eq .incoming name

theorem adjacency (keeps : kept.Keeps graph) :
  kept.adjacency.map Table.entries = some graph.adjacency
  := by
  have pairs : (kept.labels.mapM fun name => (kept.neighbors .outgoing name).map (name, ·))
      = some graph.adjacency := by
    apply mapM_eq_some_of_forall₂
    rw [keeps.labels, Graph.adjacency, List.forall₂_map_right_iff, List.forall₂_same]
    intro name _
    rw [keeps.dependencies, Option.map_some]
  have names : graph.adjacency.map (·.1) = graph.nodes := by
    rw [Graph.adjacency, List.map_map]
    exact List.map_id graph.nodes
  rw [Numbered.adjacency, pairs, Option.map_some, Option.map_some, Table.entries_ofList (names ▸ graph.nodup_nodes)]

theorem contains (keeps : kept.Keeps graph) (name : String) :
  kept.numbers.contains name = graph.contains name
  := by
  rw [Bool.eq_iff_iff, Table.contains, Option.isSome_iff_exists, Graph.contains_iff, keeps.mem_nodes_iff]

/-- A numbered graph shows what can be seen of the graph that it keeps. -/
theorem shows (keeps : kept.Keeps graph) :
  kept.Shows graph.views where
  logicalIds := keeps.labels
  contains := keeps.contains
  dependencies := keeps.dependencies
  dependents := keeps.dependents
  edgeCount := keeps.arcs.length_eq
  adjacency := keeps.adjacency

end Keeps

end Numbered

/-- Whatever is added to a graph in whatever order, its views tell just that, and keeping it by numbers shows them
too. -/
theorem Graph.views_tell_additions (additions : List Addition) :
  (Graph.ofAdditions additions).views.Tell additions
    ∧ (Numbered.ofAdditions additions).Shows (Graph.ofAdditions additions).views
  := ⟨Graph.tell_views_ofAdditions additions, (Numbered.keeps_ofAdditions additions).shows⟩

end Reconcile
