import Mathlib.Tactic.Common
import Reconcile.Proofs.Graph.Coverage
import Reconcile.Proofs.Graph.Leveling
import Reconcile.Proofs.Graph.Order
import Reconcile.Proofs.Run.Steadiness

/-!
# Decisions of a plan

A plan decides one resource after the other.  Each resource that stays as it is can be referred to
by those that are decided later, so that more and more is known; what was decided before would be
decided in the same way with all that is known in the end.
-/

namespace Reconcile

variable {σ : Type}

/-- A decision follows from what is recorded and from what is known of the properties. -/
inductive Decision.Follows (resolution : Resolution) : Option PhysicalResource → Decision → Prop where
  | create : Follows resolution none { operation := .create }
  | unknown {previous : PhysicalResource} {operation : Operation}
      (changes : operation = .update ∨ operation = .maybeUpdate) :
    Follows resolution (some previous) { operation }
  | same {previous : PhysicalResource} {properties : Json} (realized : resolution.realize = .ok properties)
      (same : previous.inputProperties.diff properties = []) :
    Follows resolution (some previous) { operation := .skip }
  | differs {previous : PhysicalResource} {properties : Json} (realized : resolution.realize = .ok properties) :
    Follows resolution (some previous)
      { operation := .update, patch := previous.inputProperties.diff properties }

theorem Decision.follows_of_ofResolution {previous : Option PhysicalResource} {hash : String} {resolution : Resolution}
    {decision : Decision} (h : Decision.ofResolution previous hash resolution = .ok decision) :
  decision.Follows resolution previous
  := by
  unfold Decision.ofResolution at h
  cases previous with
  | none =>
    cases h
    exact .create
  | some previous =>
    dsimp only at h
    split at h
    · obtain ⟨properties, realized, ⟨⟩⟩ := Except.bind_eq_ok.mp h
      split
      · next same =>
        rw [List.isEmpty_iff.mp same]
        exact .same realized (List.isEmpty_iff.mp same)
      · exact .differs realized
    · cases h
      apply Decision.Follows.unknown
      split
      · exact .inr rfl
      · exact .inl rfl

namespace Setting

variable (setting : Setting σ)

/-- What is known of resources while planning. -/
def plannedView (planning : Planning) : ResourceView :=
  planning.view setting.previous setting.desired setting.inputs setting.providers

/-- Decide one resource. -/
def planNext (planning : Planning) (id : String) : Except StackError Planning :=
  planning.next setting.previous setting.desired setting.inputs setting.config setting.providers id

/-- A recorded resource is left as it is. -/
structure Spares (view : ResourceView) (id : String) : Prop where
  found : ∃ resource previous properties, setting.desired.resources.get? id = some resource
    ∧ setting.inputs.conditions.isActive resource.condition = .ok true
    ∧ setting.previous.resources.get? id = some previous
    ∧ setting.Evaluates view resource properties ∧ previous.inputProperties.diff properties = []

/-- A declared resource is to be made, or may be changed. -/
structure Foresees (view : ResourceView) (id : String) (change : PlannedChange) : Prop where
  named : change.logicalId = id
  active : ∃ resource, setting.desired.resources.get? id = some resource
    ∧ setting.inputs.conditions.isActive resource.condition = .ok true
  operation :
    match setting.previous.resources.get? id with
    | none => change.operation = .create
    | some _ => change.operation = .update ∨ change.operation = .maybeUpdate
  /-- The differences of its properties are those that are known. -/
  patch : change.patch ≠ [] → ∃ resource previous properties, setting.desired.resources.get? id = some resource
    ∧ setting.previous.resources.get? id = some previous
    ∧ setting.Evaluates view resource properties ∧ previous.inputProperties.diff properties = change.patch

/-- What is decided of a resource, and what comes of it. -/
inductive PlansNext (planning : Planning) (id : String) : Planning → Prop where
  | undeclared (undeclared : setting.desired.resources.get? id = none) : PlansNext planning id planning
  | excluded {resource : Resource} (declared : setting.desired.resources.get? id = some resource)
      (inactive : setting.inputs.conditions.isActive resource.condition = .ok false) :
    PlansNext planning id { planning with excluded := planning.excluded ++ [id] }
  | spared {resource : Resource} (declared : setting.desired.resources.get? id = some resource)
      (active : setting.inputs.conditions.isActive resource.condition = .ok true)
      (spares : setting.Spares (setting.plannedView planning) id) :
    PlansNext planning id { planning with unchanged := planning.unchanged ++ [id] }
  | changed {resource : Resource} {change : PlannedChange}
      (declared : setting.desired.resources.get? id = some resource)
      (active : setting.inputs.conditions.isActive resource.condition = .ok true)
      (foresees : setting.Foresees (setting.plannedView planning) id change) :
    PlansNext planning id { planning with changes := planning.changes.insert id change }

/-- What has been decided of some resources holds with what is known. -/
structure Decided (ids : List String) (planning : Planning) : Prop where
  unchanged : ∀ id ∈ planning.unchanged, setting.Spares (setting.plannedView planning) id
  changes : ∀ id change, planning.changes.get? id = some change →
    setting.Foresees (setting.plannedView planning) id change
  excluded : ∀ id, id ∈ planning.excluded ↔ id ∈ ids ∧ ∃ resource, setting.desired.resources.get? id = some resource
    ∧ setting.inputs.conditions.isActive resource.condition = .ok false
  all : ∀ id ∈ ids, ∀ resource, setting.desired.resources.get? id = some resource →
    setting.inputs.conditions.isActive resource.condition = .ok true →
    id ∈ planning.unchanged ∨ ∃ change, planning.changes.get? id = some change

variable {setting}

/-! ### What is known -/

theorem available_plannedView {planning : Planning} {id : String} {physical : PhysicalResource} :
  (setting.plannedView planning).availability id = .available physical
    ↔ ¬ setting.desired.isExcluded setting.inputs.conditions id ∧ id ∈ planning.unchanged
        ∧ setting.previous.resources.get? id = some physical
  := by
  simp only [plannedView, Planning.view, List.contains_iff_mem]
  split
  · next excluded => simp [excluded]
  · next included =>
    split
    · next unchanged =>
      cases setting.previous.resources.get? id with
      | none => simp
      | some previous => simp [included, unchanged]
    · next changed => simp [changed]

/-- With more resources that stay as they are, more is known. -/
theorem extends_plannedView {planning after : Planning} (sub : ∀ id ∈ planning.unchanged, id ∈ after.unchanged) :
  (setting.capabilities (setting.plannedView planning)).Extends (setting.capabilities (setting.plannedView after))
  := by
  intro d known
  cases d with
  | resource id =>
    have same : (setting.capabilities (setting.plannedView after)).find (.resource id)
        = (setting.capabilities (setting.plannedView planning)).find (.resource id) := by
      simp only [Capabilities.find, capabilities, plannedView, Planning.view, List.contains_iff_mem] at known ⊢
      by_cases excluded : setting.desired.isExcluded setting.inputs.conditions id
      · simp [excluded]
      · by_cases unchanged : id ∈ planning.unchanged
        · simp [excluded, unchanged, sub id unchanged]
        · simp [excluded, unchanged] at known
    exact ⟨same, fun _ _ => rfl⟩
  | _ => exact ⟨rfl, fun _ _ => rfl⟩

section

variable {planning after : Planning} (sub : ∀ id ∈ planning.unchanged, id ∈ after.unchanged)

include sub

theorem Evaluates.later {resource : Resource} {properties : Json}
    (evaluates : setting.Evaluates (setting.plannedView planning) resource properties) :
  setting.Evaluates (setting.plannedView after) resource properties
  := by
  obtain ⟨resolution, evaluated, realized⟩ := evaluates
  refine ⟨resolution, ?_, realized⟩
  exact setting.desired.evaluate_of_extends (extends_plannedView sub) evaluated (Resolution.realize_eq_ok.mp realized).2

theorem Spares.later {id : String} (spares : setting.Spares (setting.plannedView planning) id) :
  setting.Spares (setting.plannedView after) id
  := by
  obtain ⟨resource, previous, properties, declared, active, recorded, evaluates, same⟩ := spares.found
  exact ⟨resource, previous, properties, declared, active, recorded, evaluates.later sub, same⟩

theorem Foresees.later {id : String} {change : PlannedChange}
    (foresees : setting.Foresees (setting.plannedView planning) id change) :
  setting.Foresees (setting.plannedView after) id change
  := by
  refine ⟨foresees.named, foresees.active, foresees.operation, ?_⟩
  intro known
  obtain ⟨resource, previous, properties, declared, recorded, evaluates, same⟩ := foresees.patch known
  exact ⟨resource, previous, properties, declared, recorded, evaluates.later sub, same⟩

end

/-! ### One resource after the other -/

theorem plansNext_of_planNext {planning after : Planning} {id : String} (h : setting.planNext planning id = .ok after) :
  setting.PlansNext planning id after
  := by
  unfold planNext Planning.next at h
  cases declared : setting.desired.resources.get? id with
  | none =>
    rw [declared] at h
    cases h
    exact .undeclared declared
  | some resource =>
    rw [declared] at h
    obtain ⟨active, ha, h⟩ := Except.bind_eq_ok.mp (Except.mapError_eq_ok.mp h)
    cases active with
    | false =>
      cases h
      exact .excluded declared ha
    | true =>
      obtain ⟨resolution, evaluated, h⟩ := Except.bind_eq_ok.mp h
      obtain ⟨decision, decided, h⟩ := Except.bind_eq_ok.mp h
      generalize recorded : setting.previous.resources.get? id = previous at decided
      -- What is known of the properties when a decision is made is enough to make it again.
      have evaluates {properties : Json} (realized : resolution.realize = .ok properties) :
          setting.Evaluates (setting.plannedView planning) resource properties := ⟨resolution, evaluated, realized⟩
      cases Decision.follows_of_ofResolution decided with
      | create =>
        cases h
        apply PlansNext.changed declared ha
        refine ⟨rfl, ⟨resource, declared, ha⟩, ?_, fun known => absurd rfl known⟩
        rw [recorded]
      | unknown changes =>
        rw [if_neg (by rintro rfl; simp at changes)] at h
        cases h
        apply PlansNext.changed declared ha
        refine ⟨rfl, ⟨resource, declared, ha⟩, ?_, fun known => absurd rfl known⟩
        rw [recorded]
        exact changes
      | same realized same =>
        cases h
        apply PlansNext.spared declared ha
        exact ⟨resource, _, _, declared, ha, recorded, evaluates realized, same⟩
      | differs realized =>
        cases h
        apply PlansNext.changed declared ha
        refine ⟨rfl, ⟨resource, declared, ha⟩, ?_, fun _ => ?_⟩
        · rw [recorded]
          exact .inl rfl
        · exact ⟨resource, _, _, declared, recorded, evaluates realized, rfl⟩

/-- A declared resource that takes part is decided once its properties have been evaluated. -/
theorem planNext_eq_ok {planning : Planning} {id : String} {resource : Resource} {resolution : Resolution}
    {decision : Decision} (declared : setting.desired.resources.get? id = some resource)
    (active : setting.inputs.conditions.isActive resource.condition = .ok true)
    (evaluated : setting.desired.evaluate (setting.capabilities (setting.plannedView planning))
      resource.desiredProperties = .ok resolution)
    (decided : Decision.ofResolution (setting.previous.resources.get? id) (fingerprint resource.properties) resolution
      = .ok decision) :
  setting.planNext planning id
    = .ok (if decision.operation = .skip then { planning with unchanged := planning.unchanged ++ [id] }
        else { planning with
          changes := planning.changes.insert id ⟨id, resource.type, decision.operation, decision.patch⟩ })
  := by
  unfold planNext Planning.next
  rw [declared]
  apply Except.mapError_eq_ok.mpr
  refine Except.bind_eq_ok.mpr ⟨true, active, Except.bind_eq_ok.mpr ⟨resolution, evaluated, ?_⟩⟩
  refine Except.bind_eq_ok.mpr ⟨decision, decided, ?_⟩
  split
  · rfl
  · rfl

/-- Nothing has been decided at first. -/
theorem decided_nil (setting : Setting σ) :
  setting.Decided [] {}
  := by
  constructor
  · nofun
  · intro id change found
    simp at found
  · intro id
    simp
  · nofun

/-- Unless its condition is false, a resource does not count as excluded. -/
theorem Decided.excluded_concat {ids : List String} {planning : Planning} (decided : setting.Decided ids planning)
    {id : String} (included : ∀ resource, setting.desired.resources.get? id = some resource →
      setting.inputs.conditions.isActive resource.condition ≠ .ok false) (other : String) :
  other ∈ planning.excluded
    ↔ other ∈ ids ++ [id] ∧ ∃ resource, setting.desired.resources.get? other = some resource
        ∧ setting.inputs.conditions.isActive resource.condition = .ok false
  := by
  rw [decided.excluded, List.mem_append, List.mem_singleton]
  constructor
  · rintro ⟨ho, inactive⟩
    exact ⟨.inl ho, inactive⟩
  · rintro ⟨ho | rfl, resource, declared, inactive⟩
    · exact ⟨ho, resource, declared, inactive⟩
    · exact absurd inactive (included resource declared)

/-- What was decided before stays. -/
theorem Decided.step {ids : List String} {planning after : Planning} {id : String}
    (decided : setting.Decided ids planning) (h : setting.planNext planning id = .ok after) :
  setting.Decided (ids ++ [id]) after
  := by
  have listed (other : String) : other ∈ ids ++ [id] ↔ other ∈ ids ∨ other = id := by simp
  have included {resource : Resource} (declared : setting.desired.resources.get? id = some resource)
      (active : setting.inputs.conditions.isActive resource.condition = .ok true) :
      ∀ resource, setting.desired.resources.get? id = some resource →
        setting.inputs.conditions.isActive resource.condition ≠ .ok false := by
    intro resource' declared'
    obtain rfl := Option.some.inj (declared.symm.trans declared')
    simp [active]
  cases plansNext_of_planNext h with
  | undeclared undeclared =>
    refine ⟨decided.unchanged, decided.changes, decided.excluded_concat (by simp [undeclared]), ?_⟩
    intro other ho resource declared active
    obtain ho | rfl := (listed other).mp ho
    · exact decided.all other ho resource declared active
    · cases undeclared.symm.trans declared
  | @excluded resource declared inactive =>
    refine ⟨decided.unchanged, decided.changes, ?_, ?_⟩
    · intro other
      rw [List.mem_append, decided.excluded, listed, List.mem_singleton, or_and_right]
      apply or_congr_right
      constructor
      · rintro rfl
        exact ⟨rfl, resource, declared, inactive⟩
      · exact And.left
    · intro other ho resource' declared' active
      obtain ho | rfl := (listed other).mp ho
      · exact decided.all other ho resource' declared' active
      · obtain rfl := Option.some.inj (declared.symm.trans declared')
        cases inactive.symm.trans active
  | spared declared active spares =>
    -- What is known grows only here.
    have sub : ∀ other ∈ planning.unchanged, other ∈ planning.unchanged ++ [id] :=
      fun _ => List.mem_append_left [id]
    refine ⟨?_, fun other change found => (decided.changes other change found).later sub, ?_, ?_⟩
    · intro other ho
      obtain ho | ho := List.mem_append.mp ho
      · exact (decided.unchanged other ho).later sub
      · obtain rfl := List.mem_singleton.mp ho
        exact spares.later sub
    · exact decided.excluded_concat (included declared active)
    · intro other ho resource' declared' active'
      obtain ho | rfl := (listed other).mp ho
      · exact (decided.all other ho resource' declared' active').imp_left (sub other)
      · exact .inl (List.mem_append_right _ List.mem_cons_self)
  | @changed _ change declared active foresees =>
    refine ⟨decided.unchanged, ?_, ?_, ?_⟩
    · intro other change' found
      rw [Table.get?_insert] at found
      split at found
      · next he =>
        cases found
        exact he ▸ foresees
      · exact decided.changes other change' found
    · exact decided.excluded_concat (included declared active)
    · intro other ho resource' declared' active'
      rw [Table.get?_insert]
      split
      · exact .inr ⟨change, rfl⟩
      · next hne =>
        obtain ho | rfl := (listed other).mp ho
        · exact decided.all other ho resource' declared' active'
        · exact absurd rfl hne

theorem decided_foldlM {names ids : List String} {before after : Planning}
    (decided : setting.Decided ids before) (h : names.foldlM setting.planNext before = .ok after) :
  setting.Decided (ids ++ names) after
  := by
  induction names generalizing ids before with
  | nil =>
    cases h
    rwa [List.append_nil]
  | cons name rest ih =>
    rw [List.foldlM_cons] at h
    obtain ⟨middle, decides, h⟩ := Except.bind_eq_ok.mp h
    have decided := ih (decided.step decides) h
    rwa [List.append_assoc] at decided

/-! ### Whole plans -/

/-- The names of the planned changes are nodes, in order. -/
theorem map_filterMap_changes {planning : Planning} {ids : List String} (decided : setting.Decided ids planning)
    (nodes : List (String × NodeOrder)) :
  (nodes.filterMap fun node => planning.changes.get? node.1).map (·.logicalId)
    = (nodes.map (·.1)).filter fun id => (planning.changes.get? id).isSome
  := by
  induction nodes with
  | nil => rfl
  | cons node rest ih =>
    simp only [List.filterMap_cons, List.map_cons, List.filter_cons]
    cases found : planning.changes.get? node.1 with
    | none => simpa using ih
    | some change => simpa [(decided.changes _ _ found).named] using ih

/-- What a plan lists: the changes that were decided, each once and after those that it depends on, and the
recorded resources that have to go. -/
structure Plans (setting : Setting σ) (graph : Graph) (planning : Planning) (plan : Plan) : Prop where
  decided : setting.Decided graph.finishOrder planning
  changes : ∀ change, change ∈ plan.changes ↔ ∃ id, planning.changes.get? id = some change
  nodup : (plan.changes.map (·.logicalId)).Nodup
  ordered : ∀ before change after, plan.changes = before ++ change :: after →
    ∀ other ∈ plan.changes, graph.Reaches change.logicalId other.logicalId → other ∈ before
  deletions : plan.deletions = setting.previous.deletionOrder setting.desired planning.excluded

/-- When all resources have been decided, their changes are listed in the order of a leveling. -/
theorem plans_of_foldlM {graph : Graph} {planning : Planning} {leveling : Leveling}
    (built : setting.desired.graph = .ok graph) (decides : graph.finishOrder.foldlM setting.planNext {} = .ok planning)
    (leveled : graph.level true = .ok leveling) :
  setting.Plans graph planning
    { conditions := setting.inputs.conditions
      changes := leveling.ordered.filterMap fun node => planning.changes.get? node.1
      deletions := setting.previous.deletionOrder setting.desired planning.excluded }
  := by
  have decided : setting.Decided ([] ++ graph.finishOrder) planning := decided_foldlM (decided_nil setting) decides
  rw [List.nil_append] at decided
  obtain ⟨nodup, ordered, nodes⟩ := Graph.level_spec leveled
  have changes (change : PlannedChange) :
      change ∈ leveling.ordered.filterMap (fun node => planning.changes.get? node.1)
        ↔ ∃ id, planning.changes.get? id = some change := by
    rw [List.mem_filterMap]
    constructor
    · rintro ⟨node, -, found⟩
      exact ⟨node.1, found⟩
    · rintro ⟨id, found⟩
      obtain ⟨resource, declared, -⟩ := (decided.changes id change found).active
      have hn : id ∈ graph.nodes :=
        (Template.mem_nodes_graph built id).mpr (Option.isSome_iff_exists.mpr ⟨resource, declared⟩)
      obtain ⟨node, hm, rfl⟩ := List.mem_map.mp ((nodes id).mpr hn)
      exact ⟨node, hm, found⟩
  refine ⟨decided, changes, ?_, ?_, rfl⟩
  · rw [map_filterMap_changes decided]
    exact nodup.filter _
  · intro before change after split other ho reaches
    obtain ⟨first, rest, he, rfl, hr⟩ := List.filterMap_eq_append_iff.mp split
    obtain ⟨between, node, last, rfl, skipped, found, -⟩ := List.filterMap_eq_cons_iff.mp hr
    have named : change.logicalId = node.1 := (decided.changes _ _ found).named
    have split : (first ++ (between ++ node :: last)).map (·.1)
        = (first ++ between).map (·.1) ++ change.logicalId :: last.map (·.1) := by
      simp [named]
    rw [he] at ordered
    obtain ⟨earlier, hm, named'⟩ := List.mem_map.mp (ordered.reaches split reaches)
    obtain ⟨id, found'⟩ := (changes other).mp ho
    obtain rfl : earlier.1 = id := named'.trans (decided.changes id other found').named
    obtain hm | hm := List.mem_append.mp hm
    · exact List.mem_filterMap.mpr ⟨earlier, hm, found'⟩
    · -- Between the changes there is none.
      cases (skipped earlier hm).symm.trans found'

theorem plans_of_planUpdate {graph : Graph} {plan : Plan} (built : setting.desired.graph = .ok graph)
    (h : planUpdate setting.previous setting.desired graph setting.inputs setting.config setting.providers = .ok plan) :
  ∃ planning, setting.Plans graph planning plan
  := by
  obtain ⟨order, sorted, h⟩ := Except.bind_eq_ok.mp h
  obtain ⟨-, -, ⟨⟩⟩ := Except.bind_eq_ok.mp sorted
  obtain ⟨planning, decides, h⟩ := Except.bind_eq_ok.mp h
  obtain ⟨leveling, leveled, ⟨⟩⟩ := Except.bind_eq_ok.mp h
  exact ⟨planning, plans_of_foldlM built decides leveled⟩

/-- In a graph without cycles there is a plan when all resources can be decided. -/
theorem exists_planUpdate {graph : Graph} {planning : Planning} (built : setting.desired.graph = .ok graph)
    (acyclic : graph.cyclicNodes = []) (decides : graph.finishOrder.foldlM setting.planNext {} = .ok planning) :
  ∃ plan, planUpdate setting.previous setting.desired graph setting.inputs setting.config setting.providers = .ok plan
    ∧ setting.Plans graph planning plan
  := by
  obtain ⟨leveling, leveled⟩ := Graph.exists_level acyclic true
  refine ⟨_, ?_, plans_of_foldlM built decides leveled⟩
  refine Except.bind_eq_ok.mpr ⟨_, Graph.topologicalOrder_eq_ok acyclic, Except.bind_eq_ok.mpr ⟨planning, decides, ?_⟩⟩
  exact Except.bind_eq_ok.mpr ⟨leveling, leveled, rfl⟩

end Setting

end Reconcile
