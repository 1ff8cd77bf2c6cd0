import Mathlib.Tactic.Common
import Reconcile.Proofs.Stack.Foretelling
import Reconcile.Proofs.Stack.Repetition

/-!
# Plans after updates

A plan that is made again after an update without failures has nothing to make and nothing to
delete.  It leaves a resource out when it has already found that all stays as it is that the resource
refers to; otherwise it takes the resource for one that may be changed.  So there is nothing to do
just when each resource is decided after those that it refers to, and the order of the graph is like
this unless a resource is concealed from it.
-/

namespace Reconcile

variable {σ : Type}

/-! ### Decisions about what is recorded -/

namespace Decision

variable {previous : PhysicalResource} {hash : String} {resolution : Resolution}

theorem ofResolution_eq_skip {properties : Json} (realized : resolution.realize = .ok properties)
    (same : previous.inputProperties.diff properties = []) :
  ofResolution (some previous) hash resolution = .ok { operation := .skip }
  := by
  simp only [ofResolution_eq realized, same, List.isEmpty_nil, if_true]

theorem ofResolution_eq_maybeUpdate (unresolved : resolution.unresolved ≠ [])
    (described : previous.propertiesHash = some hash) :
  ofResolution (some previous) hash resolution = .ok { operation := .maybeUpdate }
  := by
  have pending : ¬ resolution.isResolved := by simpa [Resolution.isResolved] using unresolved
  simp only [ofResolution, if_neg pending, if_pos described]
  rfl

end Decision

/-! ### Plans that are made again -/

namespace Setting

section

variable (setting : Setting σ) (capabilities : Capabilities)

/-- A declared resource that takes part refers to another one: its properties were evaluated with that. -/
def Refers (id other : String) : Prop :=
  ∃ resource resolution, setting.desired.resources.get? id = some resource
    ∧ setting.inputs.conditions.isActive resource.condition = .ok true
    ∧ setting.desired.evaluate capabilities resource.desiredProperties = .ok resolution
    ∧ .resource other ∈ resolution.resolved

/-- What is decided of a resource when a plan is made again, and what comes of it. -/
inductive Replans (planning : Planning) (id : String) : Planning → Prop where
  | undeclared (undeclared : setting.desired.resources.get? id = none) : Replans planning id planning
  | excluded {resource : Resource} (declared : setting.desired.resources.get? id = some resource)
      (inactive : setting.inputs.conditions.isActive resource.condition = .ok false) :
    Replans planning id { planning with excluded := planning.excluded ++ [id] }
  | spared {resource : Resource} (declared : setting.desired.resources.get? id = some resource)
      (active : setting.inputs.conditions.isActive resource.condition = .ok true)
      (known : ∀ other, setting.Refers capabilities id other → other ∈ planning.unchanged) :
    Replans planning id { planning with unchanged := planning.unchanged ++ [id] }
  | uncertain {resource : Resource} {other : String}
      (declared : setting.desired.resources.get? id = some resource)
      (refers : setting.Refers capabilities id other) (unknown : other ∉ planning.unchanged) :
    Replans planning id { planning with
      changes := planning.changes.insert id
        { logicalId := id, type := resource.type, operation := .maybeUpdate } }

/-- What has been decided of some resources when a plan is made again. -/
structure Replanned (names : List String) (planning : Planning) : Prop where
  unchanged : ∀ id ∈ planning.unchanged, id ∈ names
  changes : ∀ id change, planning.changes.get? id = some change →
    change.operation = .maybeUpdate ∧ change.patch = []
  /-- No change is possible just when each was decided after those that it refers to. -/
  idle : (∀ id, planning.changes.get? id = none) ↔ Sequenced (setting.Refers capabilities) names

end

@[simp]
theorem desired_repeated (setting : Setting σ) (last : Run σ) :
  (setting.repeated last).desired = setting.desired
  := rfl

@[simp]
theorem inputs_repeated (setting : Setting σ) (last : Run σ) :
  (setting.repeated last).inputs = setting.inputs
  := rfl

/-- What an evaluation may ask for when a plan is made again. -/
def foreknown (setting : Setting σ) (last : Run σ) (planning : Planning) : Capabilities :=
  (setting.repeated last).capabilities ((setting.repeated last).plannedView planning)

/-- A resource that is referred to has been applied. -/
theorem Refers.completed {setting : Setting σ} {run : Run σ} {id other : String}
    (refers : setting.Refers (run.capabilities setting) id other) :
  ∃ physical, run.completed? other = some physical
  := by
  obtain ⟨resource, resolution, -, -, evaluated, resolved⟩ := refers
  obtain ⟨finding, found⟩ := (setting.desired.find_of_evaluate evaluated).1 _ resolved
  exact Run.completed_of_find found

namespace Succeeds

variable {setting : Setting σ} {world : σ} {middle last : Run σ} (succeeds : setting.Succeeds world middle last)

include succeeds

theorem previous_repeated (id : String) :
  (setting.repeated last).previous.resources.get? id = last.completed? id
  := Option.ext fun _ => succeeds.get?_resources

/-- What is known of a resource when a plan is made again: it has been applied, and it stays as it is. -/
theorem find_planned (planning : Planning) (id : String) :
  (setting.foreknown last planning).find (.resource id)
    = if setting.desired.isExcluded setting.inputs.conditions id then .error (.resourceExcluded id)
      else if id ∈ planning.unchanged then .ok ((last.completed? id).map .resource) else .ok none
  := by
  simp only [Capabilities.find, foreknown, capabilities, plannedView, Planning.view, List.contains_iff_mem,
    succeeds.previous_repeated]
  by_cases excluded : setting.desired.isExcluded setting.inputs.conditions id
  · simp [excluded]
  · by_cases unchanged : id ∈ planning.unchanged
    · cases last.completed? id with
      | none => simp [excluded, unchanged]
      | some physical => simp [excluded, unchanged]
    · simp [excluded, unchanged]

theorem mem_unchanged_of_find {planning : Planning} {id : String} {finding : Finding}
    (found : (setting.foreknown last planning).find (.resource id) = .ok (some finding)) :
  id ∈ planning.unchanged
  := by
  rw [succeeds.find_planned] at found
  by_contra changed
  simp only [if_neg changed] at found
  split at found
  · cases found
  · cases found

theorem not_mem_unchanged_of_find {planning : Planning} {id : String} {physical : PhysicalResource}
    (missed : (setting.foreknown last planning).find (.resource id) = .ok none)
    (completed : last.completed? id = some physical) :
  id ∉ planning.unchanged
  := by
  intro unchanged
  simp only [succeeds.find_planned, if_pos unchanged, completed] at missed
  split at missed
  · cases missed
  · cases missed

/-- What is known when a plan is made again was known in the end. -/
theorem extends_planned (planning : Planning) :
  (setting.foreknown last planning).Extends (last.capabilities setting)
  := by
  intro d known
  cases d with
  | resource id =>
    refine ⟨?_, fun _ _ => rfl⟩
    rw [succeeds.find_planned] at known ⊢
    rw [Run.find_resource]
    by_cases excluded : setting.desired.isExcluded setting.inputs.conditions id
    · simp [excluded, succeeds.completes.sound.2.1.since_self.heeds id excluded]
    · by_cases unchanged : id ∈ planning.unchanged
      · cases completed : last.completed? id with
        | none => simp [excluded, unchanged, completed] at known
        | some physical => simp [excluded, unchanged]
      · simp [excluded, unchanged] at known
  | _ => exact ⟨rfl, fun _ _ => rfl⟩

section

variable {planning : Planning} {id : String} {resource : Resource} {resolution : Resolution}
  (declared : setting.desired.resources.get? id = some resource)
  (active : setting.inputs.conditions.isActive resource.condition = .ok true)
  (planned : setting.desired.evaluate (setting.foreknown last planning) resource.desiredProperties = .ok resolution)

include declared active planned

/-- A resource is left out when all that it refers to is known. -/
theorem exists_spared (distinct : setting.Distinct) (known : resolution.unresolved = []) :
  ∃ after, (setting.repeated last).planNext planning id = .ok after
    ∧ setting.Replans (last.capabilities setting) planning id after
  := by
  obtain ⟨physical, decision, completed, prepared, -⟩ := succeeds.exists_prepared declared (by simp [active])
  obtain ⟨resolution', evaluated, decides⟩ := prepared.resolved
  have again := setting.desired.evaluate_of_extends (succeeds.extends_planned planning) planned known
  obtain rfl : resolution' = resolution := Except.ok.inj (evaluated.symm.trans again)
  have same : physical.inputProperties.diff physical.inputProperties = [] := by
    apply Json.Distinct.diff_self
    exact (succeeds.completes.reaches.2.distinct distinct id physical completed).properties
  have decided : Decision.ofResolution ((setting.repeated last).previous.resources.get? id)
      (fingerprint resource.properties) resolution' = .ok { operation := .skip } := by
    rw [succeeds.previous_repeated, completed]
    exact Decision.ofResolution_eq_skip decides.realized same
  refine ⟨_, planNext_eq_ok declared active planned decided, ?_⟩
  rw [if_pos rfl]
  apply Replans.spared declared active
  rintro other ⟨resource', resolution', declared', -, evaluated', refers⟩
  obtain rfl := Option.some.inj (declared.symm.trans declared')
  obtain rfl := Except.ok.inj (evaluated.symm.trans evaluated')
  obtain ⟨finding, found⟩ := (setting.desired.find_of_evaluate planned).1 _ refers
  exact succeeds.mem_unchanged_of_find found

/-- A resource may be changed when something that it refers to is not known. -/
theorem exists_uncertain (unknown : resolution.unresolved ≠ []) :
  ∃ after, (setting.repeated last).planNext planning id = .ok after
    ∧ setting.Replans (last.capabilities setting) planning id after
  := by
  obtain ⟨physical, decision, completed, prepared, described⟩ :=
    succeeds.exists_prepared declared (by simp [active])
  obtain ⟨resolution', evaluated, decides⟩ := prepared.resolved
  have decided : Decision.ofResolution ((setting.repeated last).previous.resources.get? id)
      (fingerprint resource.properties) resolution = .ok { operation := .maybeUpdate } := by
    rw [succeeds.previous_repeated, completed]
    exact Decision.ofResolution_eq_maybeUpdate unknown described
  refine ⟨_, planNext_eq_ok declared active planned decided, ?_⟩
  rw [if_neg nofun]
  -- What is missing now was found in the end, so it is a resource.
  obtain ⟨d, hd⟩ := List.exists_mem_of_ne_nil _ unknown
  have missed := (setting.desired.find_of_evaluate planned).2 d hd
  have refers := setting.desired.mem_of_extends (succeeds.extends_planned planning) planned evaluated (.inr hd)
  rw [(Resolution.realize_eq_ok.mp decides.realized).2] at refers
  replace refers := refers.resolve_right List.not_mem_nil
  obtain ⟨finding, found⟩ := (setting.desired.find_of_evaluate evaluated).1 d refers
  cases d with
  | resource other =>
    apply Replans.uncertain declared ⟨resource, resolution', declared, active, evaluated, refers⟩
    obtain ⟨physical', completed'⟩ := Run.completed_of_find found
    exact succeeds.not_mem_unchanged_of_find missed completed'
  | _ => cases found.symm.trans missed

end

/-- A plan that is made again does not fail, and whatever it does not know stays possible. -/
theorem exists_replans (distinct : setting.Distinct) (planning : Planning) (id : String) :
  ∃ after, (setting.repeated last).planNext planning id = .ok after
    ∧ setting.Replans (last.capabilities setting) planning id after
  := by
  cases declared : setting.desired.resources.get? id with
  | none =>
    refine ⟨planning, ?_, .undeclared declared⟩
    unfold planNext Planning.next
    rw [desired_repeated, declared]
  | some resource =>
    obtain ⟨holds, -⟩ | ⟨inactive, -⟩ := succeeds.applied_or_excluded declared
    · have active := ConditionValues.isActive_eq_true.mpr holds
      match planned : setting.desired.evaluate (setting.foreknown last planning) resource.desiredProperties with
      | .error error =>
        obtain ⟨physical, decision, -, prepared, -⟩ := succeeds.exists_prepared declared (by simp [active])
        obtain ⟨resolution, evaluated, -⟩ := prepared.resolved
        obtain ⟨error', failed⟩ :=
          setting.desired.exists_error_of_extends (succeeds.extends_planned planning) planned
        cases failed.symm.trans evaluated
      | .ok resolution =>
        by_cases known : resolution.unresolved = []
        · exact succeeds.exists_spared declared active planned distinct known
        · exact succeeds.exists_uncertain declared active planned known
    · refine ⟨_, ?_, .excluded declared inactive⟩
      unfold planNext Planning.next
      rw [desired_repeated, declared]
      apply Except.mapError_eq_ok.mpr
      exact Except.bind_eq_ok.mpr ⟨false, inactive, rfl⟩

/-- There is nothing to do so far just when each resource came after those that it refers to: were one of them
not known, it would be listed. -/
theorem replanned_step {names : List String} {planning after : Planning} {id : String}
    (decided : (setting.repeated last).Decided names planning)
    (replanned : setting.Replanned (last.capabilities setting) names planning)
    (replans : setting.Replans (last.capabilities setting) planning id after) :
  setting.Replanned (last.capabilities setting) (names ++ [id]) after
  := by
  -- A resource that does not take part refers to nothing.
  have apart (aside : ∀ resource, setting.desired.resources.get? id = some resource →
      setting.inputs.conditions.isActive resource.condition ≠ .ok true) :
      Sequenced (setting.Refers (last.capabilities setting)) (names ++ [id])
        ↔ Sequenced (setting.Refers (last.capabilities setting)) names := by
    rw [sequenced_concat, and_iff_left_iff_imp]
    rintro - other ⟨resource, _, declared, active, -, -⟩
    exact absurd active (aside resource declared)
  have listed (other : String) (ho : other ∈ planning.unchanged) : other ∈ names ++ [id] :=
    List.mem_append_left [id] (replanned.unchanged other ho)
  cases replans with
  | undeclared undeclared =>
    refine ⟨listed, replanned.changes, ?_⟩
    rw [apart (by simp [undeclared])]
    exact replanned.idle
  | @excluded resource declared inactive =>
    refine ⟨listed, replanned.changes, ?_⟩
    rw [apart (by simp [declared, inactive])]
    exact replanned.idle
  | spared declared active known =>
    refine ⟨?_, replanned.changes, ?_⟩
    · intro other ho
      obtain ho | ho := List.mem_append.mp ho
      · exact listed other ho
      · exact List.mem_append_right names ho
    · rw [sequenced_concat, replanned.idle, iff_self_and]
      rintro - other refers
      exact replanned.unchanged other (known other refers)
  | @uncertain resource other declared refers unknown =>
    refine ⟨listed, ?_, ?_⟩
    · intro name change found
      rw [Table.get?_insert] at found
      split at found
      · cases found
        exact ⟨rfl, rfl⟩
      · exact replanned.changes name change found
    · constructor
      · intro idle
        have found := idle id
        rw [Table.get?_insert, if_pos rfl] at found
        cases found
      · intro sequenced
        obtain ⟨sequenced, there⟩ := sequenced_concat.mp sequenced
        obtain ⟨physical, completed⟩ := refers.completed
        obtain ⟨resource', decision, declared', prepared, -⟩ := succeeds.completes.sound.2.1.applied completed
        obtain unchanged | ⟨change, found⟩ := decided.all other (there other refers) resource' declared' prepared.active
        · exact absurd unchanged unknown
        · cases (replanned.idle.mpr sequenced other).symm.trans found

/-- However many resources are decided, a plan that is made again does not fail. -/
theorem exists_planning (distinct : setting.Distinct) (names : List String) :
  ∃ planning, names.foldlM (setting.repeated last).planNext {} = .ok planning
    ∧ setting.Replanned (last.capabilities setting) names planning
  := by
  induction names using List.reverseRecOn with
  | nil =>
    refine ⟨{}, rfl, ?_⟩
    constructor
    · nofun
    · intro id change found
      simp at found
    · simp [sequenced_nil]
  | append_singleton names id ih =>
    obtain ⟨planning, decides, replanned⟩ := ih
    obtain ⟨after, next, replans⟩ := succeeds.exists_replans distinct planning id
    have decided : (setting.repeated last).Decided ([] ++ names) planning := decided_foldlM (decided_nil _) decides
    refine ⟨after, ?_, succeeds.replanned_step decided replanned replans⟩
    rw [List.foldlM_append]
    exact Except.bind_eq_ok.mpr ⟨planning, decides, Except.bind_eq_ok.mpr ⟨after, next, rfl⟩⟩

end Succeeds

end Setting

/-- No resource is concealed in the template of a resource and another one that refers to it. -/
theorem Template.not_concealed_chained (id : String) (declared : chained.isResource id) :
  ¬ chained.Concealed id
  := by
  have plain : ∀ name ∈ ["Base", "Top"], isPseudoParameter name = false
      ∧ name.toList.head? ≠ some '!' ∧ Text.splitOnce '.' name = none := by
    decide +kernel
  obtain ⟨unreserved, unmarked, undotted⟩ := plain id ((Table.contains_iff _ _).mp declared)
  rintro (reserved | parameter | ⟨marked, -, -⟩ | ⟨dotted, -, -, -⟩)
  · cases unreserved.symm.trans reserved
  · cases parameter
  · exact unmarked marked
  · cases undotted.symm.trans dotted

namespace Stack

variable {stack : Stack σ} {template : Template} {parameters : Table String} {graph : Graph} {inputs : Inputs}
  {world : σ} {middle last : Run σ}

/-- What resources refer to can be told from what is recorded. -/
theorem refers_recordedState (succeeds : (stack.updateSetting template inputs).Succeeds world middle last)
    {id other : String} :
  (stack.updateSetting template inputs).Refers
      ((last.recordedState (stack.updateSetting template inputs)).capabilities stack inputs) id other
    ↔ (stack.updateSetting template inputs).Refers (last.capabilities (stack.updateSetting template inputs)) id other
  := by
  have same {resource : Resource} (declared : template.resources.get? id = some resource)
      (active : inputs.conditions.isActive resource.condition = .ok true) :
      ∃ resolution, template.evaluate (last.capabilities (stack.updateSetting template inputs))
          resource.desiredProperties = .ok resolution
        ∧ template.evaluate ((last.recordedState (stack.updateSetting template inputs)).capabilities stack inputs)
          resource.desiredProperties = .ok resolution := by
    obtain ⟨physical, decision, -, prepared, -⟩ :=
      succeeds.exists_prepared declared fun inactive => nomatch active.symm.trans inactive
    obtain ⟨resolution, evaluated, decides⟩ := prepared.resolved
    refine ⟨resolution, evaluated, evaluate_of_recorded ?_ evaluated (Resolution.realize_eq_ok.mp decides.realized).2⟩
    intro name physical completed
    exact succeeds.get?_resources.mpr completed
  constructor
  · rintro ⟨resource, resolution, declared, active, evaluated, refers⟩
    obtain ⟨resolution', before, after⟩ := same declared active
    obtain rfl := Except.ok.inj (evaluated.symm.trans after)
    exact ⟨resource, resolution, declared, active, before, refers⟩
  · rintro ⟨resource, resolution, declared, active, evaluated, refers⟩
    obtain ⟨resolution', before, after⟩ := same declared active
    obtain rfl := Except.ok.inj (evaluated.symm.trans before)
    exact ⟨resource, resolution, declared, active, after, refers⟩

/-- Unless a resource is concealed, each comes in the order of the graph after those that it refers to. -/
theorem sequenced_of_plain (passed : stack.preflight template parameters = .ok (graph, inputs))
    (plain : ∀ id, template.isResource id → ¬ template.Concealed id) (capabilities : Capabilities) :
  Sequenced ((stack.updateSetting template inputs).Refers capabilities) graph.finishOrder
  := by
  have guarded := guarded_of_preflight passed plain
  intro before id after split other refers
  obtain ⟨resource, resolution, declared, -, evaluated, resolved⟩ := refers
  apply Graph.ordered_finishOrder guarded.acyclic before id after split
  exact guarded.covers id resource declared other (template.mem_reads_of_evaluate evaluated (.inl resolved))

/-- What a plan says that is made again after an update. -/
structure Confirms (stack : Stack σ) (template : Template) (inputs : Inputs) (order : List String) (plan : Plan) :
    Prop where
  /-- Nothing has to go. -/
  deletions : plan.deletions = []
  /-- Resources are listed at most as ones that may be changed, and no difference is known. -/
  changes : ∀ change ∈ plan.changes, change.operation = .maybeUpdate ∧ change.patch = []
  /-- None is listed just when each comes in the order of the graph after those that it refers to, -/
  idle : plan.changes = []
    ↔ Sequenced ((stack.updateSetting template inputs).Refers (stack.state.capabilities stack inputs)) order
  /-- and hence when none is concealed from the graph. -/
  plain : (∀ id, template.isResource id → ¬ template.Concealed id) → plan.changes = []

theorem exists_confirms (distinct : stack.Distinct template)
    (passed : stack.preflight template parameters = .ok (graph, inputs))
    (completes : (stack.updateSetting template inputs).Completes world middle last)
    (succeeded : (stack.updateReport template inputs last).error = none) :
  ∃ plan, (stack.updateReport template inputs last).stack.plan template parameters = .ok plan
    ∧ (stack.updateReport template inputs last).stack.Confirms template inputs graph.finishOrder plan
  := by
  have succeeds := succeeds_of_error completes succeeded
  obtain ⟨⟨built, acyclic⟩, -⟩ := preflight_eq_ok.mp passed
  obtain ⟨planning, decides, replanned⟩ :=
    succeeds.exists_planning (distinct.updateSetting passed) graph.finishOrder
  obtain ⟨plan, planned, plans⟩ : ∃ plan, (stack.updateReport template inputs last).stack.plan template parameters
      = .ok plan ∧ ((stack.updateSetting template inputs).repeated last).Plans graph planning plan :=
    exists_plan passed decides
  have idle : plan.changes = [] ↔ Sequenced ((stack.updateSetting template inputs).Refers
      ((last.recordedState (stack.updateSetting template inputs)).capabilities stack inputs)) graph.finishOrder := by
    unfold Sequenced
    simp only [refers_recordedState succeeds]
    refine Iff.trans ?_ replanned.idle
    rw [List.eq_nil_iff_forall_not_mem]
    simp only [plans.changes, not_exists, Option.eq_none_iff_forall_ne_some]
    exact forall_comm
  refine ⟨plan, planned, ?_, ?_, idle, ?_⟩
  · rw [plans.deletions_eq built]
    exact succeeds.removals_repeated
  · intro change hm
    obtain ⟨id, found⟩ := (plans.changes change).mp hm
    exact replanned.changes id change found
  · intro plain
    exact idle.mpr (sequenced_of_plain passed plain _)

/-- Whatever had been recorded, and whatever the schedule and the providers did, a plan that is made again after
an update without failures is made without failures too, and it says that the update would do nothing, but for
changes that it takes for possible because it decides a resource before another one that this refers to. -/
theorem confirms_of_mayReport {report : Report σ} (distinct : stack.Distinct template)
    (reports : stack.MayReport template parameters world report) (succeeded : report.error = none) :
  ∃ graph inputs order plan, stack.preflight template parameters = .ok (graph, inputs)
    ∧ graph.topologicalOrder = .ok order
    ∧ report.stack.plan template parameters = .ok plan
    ∧ report.stack.Confirms template inputs order plan
  := by
  cases reports with
  | refused rejected => cases succeeded
  | @completed graph inputs middle last passed completes =>
    obtain ⟨⟨-, acyclic⟩, -⟩ := preflight_eq_ok.mp passed
    obtain ⟨plan, planned, confirms⟩ := exists_confirms distinct passed completes succeeded
    exact ⟨graph, inputs, _, plan, passed, Graph.topologicalOrder_eq_ok acyclic, planned, confirms⟩

/-- When a provider makes every resource, a plan that is made again says that there is nothing to do. -/
theorem exists_confirms_chained :
  ∃ report graph inputs order plan, obliging.Distinct .chained
    ∧ obliging.MayReport .chained .empty () report ∧ report.error = none
    ∧ obliging.preflight .chained .empty = .ok (graph, inputs) ∧ graph.topologicalOrder = .ok order
    ∧ report.stack.plan .chained .empty = .ok plan
    ∧ report.stack.Confirms .chained inputs order plan ∧ plan.isEmpty
  := by
  obtain ⟨graph, middle, last, passed, completes, succeeded⟩ := exists_completes_obliging
  have reports := MayReport.completed passed completes
  obtain ⟨graph', inputs, order, plan, passed', sorted, planned, confirms⟩ :=
    confirms_of_mayReport distinct_obliging reports succeeded
  refine ⟨_, graph', inputs, order, plan, distinct_obliging, reports, succeeded, passed', sorted, planned, confirms, ?_⟩
  simp [Plan.isEmpty, confirms.deletions, confirms.plain Template.not_concealed_chained]

end Stack

/-- A template with a resource of the name of a parameter, and another one with an attribute of that. -/
def Template.overtaking : Template where
  parameters := .ofList [("A", { type := .string, default := some (.string "x") })]
  resources := .ofList
    [("X", { type := "T", properties := some (.object [("P", .getAtt "A" "Arn")]) }), ("A", { type := "T" })]

namespace Stack

/-- The stack whose provider makes every resource and gives it an attribute. -/
def attributing : Stack Unit :=
  answering fun request => .ok { resource := { type := request.type, attributes := .ofList [("Arn", .string "arn")] } }

/-- The graph has no edge for the attribute, and so the resource is decided before the one that it refers to:
right after an update without failures it is taken for one that may be changed. -/
theorem exists_change_overtaking :
  ∃ report plan, attributing.MayReport .overtaking .empty () report ∧ report.error = none
    ∧ report.stack.plan .overtaking .empty = .ok plan ∧ plan.changes ≠ []
  := by
  let values : ParameterValues := ⟨.ofList [("A", .string "x")], .ofList [("A", .string)], []⟩
  have passed : attributing.preflight .overtaking .empty = .ok (.ofNodes ["X", "A"], ⟨values, .empty⟩) := by cbv
  have order : (Graph.ofNodes ["X", "A"]).finishOrder = ["X", "A"] := by cbv
  let setting := attributing.updateSetting .overtaking ⟨values, .empty⟩
  have nothing : setting.removals = [] := Setting.removals_eq_nil rfl
  have made : ((setting.requested ()).steps? setting
      [.update "A", .update "A", .update "A", .update "X", .update "X", .update "X"]).any fun last =>
        last.isOver && (last.failures (setting.desired.resources.names.map .update)).isEmpty
          && (last.outputFailures setting).isEmpty
          && (["X", "A"].foldlM (setting.repeated (last.removing [])).planNext {}).toOption.any fun planning =>
            (planning.changes.get? "X").isSome := by
    decide +kernel
  obtain ⟨last, scheduled, holds⟩ := (Option.any_eq_true _ _).mp made
  simp only [Bool.and_eq_true, List.isEmpty_iff] at holds
  obtain ⟨⟨⟨ended, updated⟩, evaluated⟩, planned⟩ := holds
  obtain ⟨planning, decides, listed⟩ := (Option.any_eq_true _ _).mp planned
  rw [Except.toOption_eq_some, ← order] at decides
  obtain ⟨change, found⟩ := Option.isSome_iff_exists.mp listed
  have completes := Setting.completes_of_nothing (Run.leads_steps? scheduled) ended updated nothing
  have succeeded := error_updateReport_removing nothing updated evaluated
  let report := attributing.updateReport .overtaking ⟨values, .empty⟩ (last.removing [])
  have passed' : report.stack.preflight .overtaking .empty = .ok (.ofNodes ["X", "A"], ⟨values, .empty⟩) := passed
  obtain ⟨plan, planned, plans⟩ := exists_plan passed' decides
  refine ⟨report, plan, .completed passed completes, succeeded, planned, ?_⟩
  exact List.ne_nil_of_mem ((plans.changes change).mpr ⟨"X", found⟩)

end Stack

end Reconcile
