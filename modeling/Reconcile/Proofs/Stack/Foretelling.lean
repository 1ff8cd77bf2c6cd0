import Mathlib.Tactic.Common
import Reconcile.Proofs.Plan.Planning
import Reconcile.Proofs.Stack.Recording

/-!
# Plans foretell updates

A plan is made before any provider is called, and takes every change for one that may change all
that depends on it.  What it leaves out is left alone by the update, whatever the providers do;
and when the update goes well, what it lists with certainty has been done.
-/

namespace Reconcile

variable {σ : Type}

/-- Which resources have to go depends on which are declared and which are excluded, and not on their order. -/
theorem StackState.deletionOrder_congr (previous : StackState) {desired other : Template}
    {excluded excluded' : List String} (declared : desired.isResource = other.isResource)
    (same : ∀ id, id ∈ excluded ↔ id ∈ excluded') :
  previous.deletionOrder desired excluded = previous.deletionOrder other excluded'
  := by
  have doomed : previous.isDoomed desired excluded = previous.isDoomed other excluded' := by
    funext id
    unfold isDoomed
    rw [declared]
    congr 2
    rw [Bool.eq_iff_iff, List.contains_iff_mem, List.contains_iff_mem, same]
  unfold deletionOrder
  rw [doomed]

namespace Setting

variable {setting : Setting σ} {world : σ} {middle last run : Run σ} {id : String}

/-! ### Calls and answers of an update -/

/-- Providers are asked to delete only what has to go. -/
theorem Reaches.mem_removals (reaches : setting.Reaches world run) {call : Call} (hc : call ∈ run.calls)
    (served : call.request.goal = .delete id) :
  id ∈ setting.removals
  := by
  cases reaches with
  | updating leads => exact absurd served (leads.uncalled call hc id)
  | removing leads updated unfailed leads' =>
    obtain ⟨-, dismantling, doomed⟩ := leads.removes setting.contains_of_mem_removals leads'
    rw [← doomed]
    exact (dismantling.calls call hc id served).1

namespace Succeeds

variable (succeeds : setting.Succeeds world middle last)

include succeeds

/-- When an update goes well, a resource that is not skipped has been made or changed. -/
theorem exists_exchange {resource : Resource} (declared : setting.desired.resources.get? id = some resource)
    (active : setting.inputs.conditions.isActive resource.condition = .ok true) :
  ∃ properties decision, last.Prepared setting id resource properties decision
    ∧ (decision.operation ≠ .skip →
        ∃ reply, ⟨setting.requestFor id resource properties, .ok reply⟩ ∈ last.exchanges)
  := by
  obtain ⟨outcome, finished⟩ := (succeeds.endsWell declared).2
  have reaches := succeeds.completes.reaches.2
  cases (reaches.sound.accounted finished).justified declared with
  | skipped prepared skips recorded => exact ⟨_, _, prepared, fun calls => absurd skips calls⟩
  | excluded inactive => cases active.symm.trans inactive
  | @succeeded properties _ _ reply _ prepared calls serving refused answered allowed =>
    refine ⟨_, _, prepared, fun _ => ⟨reply, ?_⟩⟩
    exact reaches.faithful.exchange_of_answer reaches.sound declared prepared (by simp [answered])

/-- When an update goes well, what has to go was deleted or left in place. -/
theorem deletes_or_retains (h : id ∈ setting.removals) :
  (∃ exchange ∈ last.exchanges, exchange.Deletes id) ∨ last.removal? id = some .retained
  := by
  have removed := succeeds.removed (StackState.mem_deletionOrder.mp h)
  unfold Run.removal? at removed ⊢
  split at removed
  · next deleted => exact .inl (succeeds.completes.deleted_iff.mp deleted)
  · exact .inr rfl
  · cases removed

end Succeeds

/-! ### Plans of a setting -/

namespace Plans

variable {graph : Graph} {planning : Planning} {plan : Plan} (plans : setting.Plans graph planning plan)

include plans

/-- What a plan leaves alone is settled. -/
theorem settles :
  setting.Settles (setting.plannedView planning)
  := by
  constructor
  · rfl
  · intro id known available
    obtain ⟨-, unchanged, recorded⟩ := available_plannedView.mp available
    obtain ⟨resource, previous, properties, declared, active, recorded', evaluates, same⟩ :=
      (plans.decided.unchanged id unchanged).found
    obtain rfl := Option.some.inj (recorded.symm.trans recorded')
    exact ⟨known, resource, properties, recorded, rfl, declared, evaluates, same⟩

/-- The removals of an update are those of its plan. -/
theorem deletions_eq (built : setting.desired.graph = .ok graph) :
  plan.deletions = setting.removals
  := by
  rw [plans.deletions]
  apply StackState.deletionOrder_congr _ rfl
  intro id
  rw [plans.decided.excluded, Stack.mem_excluded]
  constructor
  · exact And.right
  · rintro ⟨resource, declared, inactive⟩
    refine ⟨Graph.mem_finishOrder ?_, resource, declared, inactive⟩
    exact (Template.mem_nodes_graph built id).mpr (Option.isSome_iff_exists.mpr ⟨resource, declared⟩)

/-- A declared resource that takes part is left alone, or a change of it is planned. -/
theorem unchanged_or_change (built : setting.desired.graph = .ok graph) {resource : Resource}
    (declared : setting.desired.resources.get? id = some resource)
    (active : setting.inputs.conditions.isActive resource.condition = .ok true) :
  (∃ known, (setting.plannedView planning).availability id = .available known)
    ∨ ∃ change ∈ plan.changes, setting.Foresees (setting.plannedView planning) id change
  := by
  have listed : id ∈ graph.finishOrder := Graph.mem_finishOrder
    ((Template.mem_nodes_graph built id).mpr (Option.isSome_iff_exists.mpr ⟨resource, declared⟩))
  obtain unchanged | ⟨change, found⟩ := plans.decided.all id listed resource declared active
  · obtain ⟨_, previous, _, -, -, recorded, -⟩ := (plans.decided.unchanged id unchanged).found
    have included := Template.not_isExcluded declared active
    exact .inl ⟨previous, available_plannedView.mpr ⟨included, unchanged, recorded⟩⟩
  · exact .inr ⟨change, (plans.changes change).mpr ⟨id, found⟩, plans.decided.changes id change found⟩

section

variable (built : setting.desired.graph = .ok graph) (reaches : setting.Reaches world run) {call : Call}
  (hc : call ∈ run.calls)

include built reaches hc

/-- A provider is called for a declared resource only if a change of it is planned. -/
theorem exists_change (served : call.request.goal = .update id) :
  ∃ change ∈ plan.changes, setting.Foresees (setting.plannedView planning) id change
    ∧ ∃ resource properties, call.request = setting.requestFor id resource properties
  := by
  obtain ⟨resource, properties, decision, declared, prepared, -, requested⟩ := reaches.sound.calls call hc id served
  obtain ⟨known, available⟩ | ⟨change, hm, foresees⟩ := plans.unchanged_or_change built declared prepared.active
  · -- What is left alone is steady, and no provider is called for it.
    exact absurd served ((reaches.steady plans.settles).uncalled plans.settles reaches.sound available call hc)
  · exact ⟨change, hm, foresees, resource, properties, requested⟩

theorem exists_create {type : String} {properties : Json} (requested : call.request = .create id type properties) :
  ∃ change ∈ plan.changes, change.logicalId = id ∧ change.operation = .create
  := by
  obtain ⟨change, hm, foresees, resource, properties', requested'⟩ :=
    plans.exists_change built reaches hc (by rw [requested]; rfl)
  have operation := foresees.operation
  rw [requested, requestFor] at requested'
  split at requested'
  · next recorded =>
    rw [recorded] at operation
    exact ⟨change, hm, foresees.named, operation⟩
  · cases requested'

theorem exists_update {type : String} {properties : Json} {previous : PhysicalResource}
    (requested : call.request = .update id type properties previous) :
  ∃ change ∈ plan.changes, change.logicalId = id ∧ (change.operation = .update ∨ change.operation = .maybeUpdate)
  := by
  obtain ⟨change, hm, foresees, resource, properties', requested'⟩ :=
    plans.exists_change built reaches hc (by rw [requested]; rfl)
  have operation := foresees.operation
  rw [requested, requestFor] at requested'
  split at requested'
  · cases requested'
  · next recorded =>
    rw [recorded] at operation
    exact ⟨change, hm, foresees.named, operation⟩

end

section

variable (succeeds : setting.Succeeds world middle last) {change : PlannedChange} (hm : change ∈ plan.changes)

include succeeds hm

/-- When an update goes well, what was to be made has been made. -/
theorem exists_made (makes : change.operation = .create) :
  ∃ type properties reply, ⟨.create change.logicalId type properties, .ok reply⟩ ∈ last.exchanges
  := by
  obtain ⟨id, found⟩ := (plans.changes change).mp hm
  have foresees := plans.decided.changes id change found
  obtain ⟨resource, declared, active⟩ := foresees.active
  have unrecorded : setting.previous.resources.get? id = none := by
    have operation := foresees.operation
    split at operation
    · next unrecorded => exact unrecorded
    · simp [makes] at operation
  obtain ⟨properties, decision, prepared, exchanged⟩ := succeeds.exists_exchange declared active
  obtain ⟨reply, answered⟩ := exchanged (by rw [Ne, prepared.skips_iff]; simp [unrecorded])
  rw [requestFor, unrecorded] at answered
  rw [foresees.named]
  exact ⟨_, properties, reply, answered⟩

/-- When an update goes well, what differed has been changed by these differences. -/
theorem exists_changed (differs : change.patch ≠ []) :
  ∃ type properties previous reply, setting.previous.resources.get? change.logicalId = some previous
    ∧ ⟨.update change.logicalId type properties previous, .ok reply⟩ ∈ last.exchanges
    ∧ previous.inputProperties.diff properties = change.patch
  := by
  obtain ⟨id, found⟩ := (plans.changes change).mp hm
  have foresees := plans.decided.changes id change found
  obtain ⟨resource, declared, active⟩ := foresees.active
  obtain ⟨resource', previous, properties, declared', recorded, evaluates, patch⟩ := foresees.patch differs
  obtain rfl := Option.some.inj (declared.symm.trans declared')
  obtain ⟨properties', decision, prepared, exchanged⟩ := succeeds.exists_exchange declared active
  obtain rfl := (succeeds.completes.reaches.2.steady plans.settles).properties_eq plans.settles.refs evaluates prepared
  obtain ⟨reply, answered⟩ := exchanged (by rw [Ne, prepared.skips_iff]; simp [recorded, patch, differs])
  rw [requestFor, recorded] at answered
  rw [foresees.named]
  exact ⟨_, _, previous, reply, recorded, answered, patch⟩

end

end Plans

end Setting

/-! ### Plans of a stack -/

namespace Stack

/-- A plan of an update towards a template with a graph says beforehand what the update does. -/
structure Foretells (stack : Stack σ) (template : Template) (inputs : Inputs) (graph : Graph) (plan : Plan) :
    Prop where
  /-- However far the update has come, providers were called only for what the plan lists. -/
  calls : ∀ world run, (stack.updateSetting template inputs).Reaches world run → ∀ call ∈ run.calls,
    match call.request with
    | .create id _ _ => ∃ change ∈ plan.changes, change.logicalId = id ∧ change.operation = .create
    | .update id _ _ _ => ∃ change ∈ plan.changes, change.logicalId = id
        ∧ (change.operation = .update ∨ change.operation = .maybeUpdate)
    | .delete id _ _ => id ∈ plan.deletions
  /-- When it has gone well, what is to be made has been made, -/
  made : ∀ world middle last, (stack.updateSetting template inputs).Completes world middle last →
    (stack.updateReport template inputs last).error = none →
    ∀ change ∈ plan.changes, change.operation = .create → ∃ type properties reply,
      ⟨.create change.logicalId type properties, .ok reply⟩ ∈ last.exchanges
  /-- what differs has been changed by just these differences, -/
  changed : ∀ world middle last, (stack.updateSetting template inputs).Completes world middle last →
    (stack.updateReport template inputs last).error = none →
    ∀ change ∈ plan.changes, change.patch ≠ [] → ∃ type properties previous reply,
      stack.state.resources.get? change.logicalId = some previous
        ∧ ⟨.update change.logicalId type properties previous, .ok reply⟩ ∈ last.exchanges
        ∧ previous.inputProperties.diff properties = change.patch
  /-- and what has to go was deleted or left in place. -/
  deleted : ∀ world middle last, (stack.updateSetting template inputs).Completes world middle last →
    (stack.updateReport template inputs last).error = none →
    ∀ id ∈ plan.deletions, (∃ exchange ∈ last.exchanges, exchange.Deletes id) ∨ last.removal? id = some .retained
  /-- No resource is listed twice, -/
  nodup : (plan.changes.map (·.logicalId)).Nodup
  /-- none whose condition is false, -/
  included : ∀ change ∈ plan.changes, ¬ template.isExcluded inputs.conditions change.logicalId
  /-- and each after those that it depends on. -/
  ordered : ∀ before change after, plan.changes = before ++ change :: after →
    ∀ other ∈ plan.changes, graph.Reaches change.logicalId other.logicalId → other ∈ before

variable {stack : Stack σ} {template : Template} {parameters : Table String} {plan : Plan}

theorem plans_of_plan (planned : stack.plan template parameters = .ok plan) :
  ∃ graph inputs planning, stack.preflight template parameters = .ok (graph, inputs)
    ∧ (stack.updateSetting template inputs).Plans graph planning plan
  := by
  obtain ⟨⟨graph, inputs⟩, passed, planned⟩ := Except.bind_eq_ok.mp planned
  obtain ⟨bare, planned, h⟩ := Except.bind_eq_ok.mp planned
  obtain ⟨⟨built, -⟩, -⟩ := preflight_eq_ok.mp passed
  let setting := stack.updateSetting template inputs
  obtain ⟨planning, plans⟩ : ∃ planning, setting.Plans graph planning bare :=
    Setting.plans_of_planUpdate built planned
  refine ⟨graph, inputs, planning, passed, ?_⟩
  split at h
  · cases h
    exact plans
  · cases h
    exact ⟨plans.decided, plans.changes, plans.nodup, plans.ordered, plans.deletions⟩

/-- When the checks are passed and the resources can be decided there is a plan. -/
theorem exists_plan {graph : Graph} {inputs : Inputs} {planning : Planning}
    (passed : stack.preflight template parameters = .ok (graph, inputs))
    (decides : graph.finishOrder.foldlM (stack.updateSetting template inputs).planNext {} = .ok planning) :
  ∃ plan, stack.plan template parameters = .ok plan
    ∧ (stack.updateSetting template inputs).Plans graph planning plan
  := by
  obtain ⟨⟨built, acyclic⟩, -⟩ := preflight_eq_ok.mp passed
  obtain ⟨bare, planned, plans⟩ : ∃ bare, planUpdate stack.state template graph inputs stack.config stack.providers
      = .ok bare ∧ (stack.updateSetting template inputs).Plans graph planning bare :=
    Setting.exists_planUpdate built acyclic decides
  unfold plan
  simp only [Except.bind_eq_ok]
  cases stack.assets with
  | none => exact ⟨bare, ⟨_, passed, bare, planned, rfl⟩, plans⟩
  | some store =>
    refine ⟨_, ⟨_, passed, bare, planned, rfl⟩, ?_⟩
    exact ⟨plans.decided, plans.changes, plans.nodup, plans.ordered, plans.deletions⟩

/-- Whatever is recorded, a plan says beforehand what the update does, whatever the schedule and the
providers. -/
theorem foretells_of_plan (planned : stack.plan template parameters = .ok plan) :
  ∃ graph inputs, stack.preflight template parameters = .ok (graph, inputs)
    ∧ stack.Foretells template inputs graph plan
  := by
  obtain ⟨graph, inputs, planning, passed, plans⟩ := plans_of_plan planned
  obtain ⟨⟨built, -⟩, -⟩ := preflight_eq_ok.mp passed
  refine ⟨graph, inputs, passed, ?_⟩
  constructor
  · intro world run reaches call hc
    split
    · next requested => exact plans.exists_create built reaches hc requested
    · next requested => exact plans.exists_update built reaches hc requested
    · next requested =>
      rw [plans.deletions_eq built]
      exact reaches.mem_removals hc (by rw [requested]; rfl)
  · intro world middle last completes succeeded change hm
    exact plans.exists_made (succeeds_of_error completes succeeded) hm
  · intro world middle last completes succeeded change hm
    exact plans.exists_changed (succeeds_of_error completes succeeded) hm
  · intro world middle last completes succeeded id hid
    have succeeds := succeeds_of_error completes succeeded
    rw [plans.deletions_eq built] at hid
    exact succeeds.deletes_or_retains hid
  · exact plans.nodup
  · intro change hm
    obtain ⟨id, found⟩ := (plans.changes change).mp hm
    have foresees := plans.decided.changes id change found
    obtain ⟨resource, declared, active⟩ := foresees.active
    rw [foresees.named]
    exact Template.not_isExcluded declared active
  · exact plans.ordered

end Stack

/-! ### An example -/

/-- The graph of a resource and another one that refers to it. -/
def Graph.chained : Graph := (Graph.ofNodes ["Base", "Top"]).addEdge "Top" "Base"

theorem Graph.topologicalOrder_chained :
  chained.topologicalOrder = .ok ["Base", "Top"]
  := by
  have acyclic : chained.cyclicNodes = [] := by cbv
  have order : chained.finishOrder = ["Base", "Top"] := by cbv
  rw [topologicalOrder_eq_ok acyclic, order]

namespace Stack

/-- A stack of which a resource is recorded, and another one that has to go. -/
def moving : Stack Unit :=
  { obliging with
    state :=
      { template := { resources := .ofList [("Old", { type := "T" }), ("Base", { type := "T" })] }
        resources := .ofList
          [("Old", { type := "T" }), ("Base", { type := "T", inputProperties := .object [] })] } }

/-- One resource is left alone, another one is to be made, and the third has to go. -/
theorem exists_foretells_moving :
  ∃ plan graph inputs, moving.plan .chained .empty = .ok plan
    ∧ plan.changes.map (fun change => (change.logicalId, change.operation)) = [("Top", .create)]
    ∧ plan.deletions = ["Old"]
    ∧ moving.preflight .chained .empty = .ok (graph, inputs)
    ∧ moving.Foretells .chained inputs graph plan
  := by
  have passed : moving.preflight .chained .empty = .ok (.chained, {}) := by cbv
  have leveled : Graph.chained.level true = .ok ⟨[("Base", ⟨1, 1, 0⟩), ("Top", ⟨2, 0, 1⟩)]⟩ := by cbv
  have order : moving.state.deletionOrder .chained [] = ["Old"] := by cbv
  have decided : (["Base", "Top"].foldlM (moving.updateSetting .chained {}).planNext {}).toOption.any fun planning =>
      planning.excluded = [] && (planning.changes.get? "Base").isNone
        && (planning.changes.get? "Top").any fun change => change.logicalId = "Top" && change.operation = .create := by
    decide +kernel
  obtain ⟨planning, decides, holds⟩ := (Option.any_eq_true _ _).mp decided
  rw [Except.toOption_eq_some] at decides
  simp only [Bool.and_eq_true, decide_eq_true_eq, Option.isNone_iff_eq_none] at holds
  obtain ⟨⟨included, unchanged⟩, made⟩ := holds
  obtain ⟨change, found, made⟩ := (Option.any_eq_true _ _).mp made
  simp only [Bool.and_eq_true, decide_eq_true_eq] at made
  have planned : moving.plan .chained .empty
      = .ok { conditions := .empty, changes := [change], deletions := ["Old"] } := by
    refine Except.bind_eq_ok.mpr ⟨_, passed, Except.bind_eq_ok.mpr ⟨_, ?_, rfl⟩⟩
    refine Except.bind_eq_ok.mpr ⟨_, Graph.topologicalOrder_chained, ?_⟩
    refine Except.bind_eq_ok.mpr ⟨_, decides, ?_⟩
    refine Except.bind_eq_ok.mpr ⟨_, leveled, ?_⟩
    simp only [List.filterMap_cons, List.filterMap_nil, unchanged, found, included, order]
    rfl
  obtain ⟨graph, inputs, passed', foretells⟩ := foretells_of_plan planned
  exact ⟨_, graph, inputs, planned, by simp [made], rfl, passed', foretells⟩

end Stack

end Reconcile
