import Mathlib.Tactic.Common
import Reconcile.Proofs.Stack.Concurrence
import Reconcile.Proofs.Stack.Rejection

/-!
# Independence of the schedule

Two updates of a stack towards templates that differ only in the order in which they list the
resources, with regular providers, come to the same end under any schedules: the same resources are
applied, excluded, removed and failed, both updates go well or neither does, and they record the
same.
-/

namespace Reconcile

variable {σ : Type}

/-- The same has become of the resources in two runs towards a template. -/
structure Run.Concurs (desired : Template) (run other : Run σ) : Prop where
  /-- The same resources have been applied, by the same operations and with the same properties and attributes; -/
  applied : ∀ id physical operation, run.result? (.update id) = some (.ok (.applied physical operation))
    ↔ other.result? (.update id) = some (.ok (.applied physical operation))
  /-- the same resources are excluded; -/
  excluded : ∀ id, run.result? (.update id) = some (.ok .excluded) ↔ other.result? (.update id) = some (.ok .excluded)
  /-- the same declared resources have failed; -/
  failed : ∀ id, desired.isResource id →
    ((∃ error, run.result? (.update id) = some (.error error))
      ↔ ∃ error, other.result? (.update id) = some (.error error))
  /-- the same recorded resources were deleted, or left in place; -/
  removed : ∀ id, run.removal? id = other.removal? id
  /-- and the deletion of the same ones has failed. -/
  unremoved : ∀ id, (∃ error, run.result? (.delete id) = some (.error error))
    ↔ ∃ error, other.result? (.delete id) = some (.error error)

/-- What failed in an update. -/
def Report.failed (report : Report σ) : List String :=
  match report.error with
  | some (.updateFailed failures) => failures.map (·.1)
  | _ => []

/-- Two reports agree but for errors and the order in which things are listed. -/
structure Report.Concurs (report other : Report σ) : Prop where
  /-- Both updates went well, or neither did; -/
  error : report.error = none ↔ other.error = none
  /-- the same failures are reported; -/
  failed : ∀ id, id ∈ report.failed ↔ id ∈ other.failed
  /-- the same resources are recorded, -/
  resources : ∀ id, report.stack.state.resources.get? id = other.stack.state.resources.get? id
  /-- and the same outputs. -/
  outputs : ∀ name, report.stack.state.outputs.get? name = other.stack.state.outputs.get? name

/-- Under whatever schedules, updates of a stack towards two templates come to the same end. -/
structure Stack.Concurs (stack : Stack σ) (parameters : Table String) (template other : Template)
    (world world' : σ) : Prop where
  /-- The same has become of the resources when both have been completed. -/
  runs : ∀ graph graph' inputs inputs' middle middle' last last',
    stack.preflight template parameters = .ok (graph, inputs) →
    (stack.updateSetting template inputs).Completes world middle last →
    stack.preflight other parameters = .ok (graph', inputs') →
    (stack.updateSetting other inputs').Completes world' middle' last' →
    last.Concurs template last'
  /-- Both have been refused, or both have been completed and reported the same. -/
  reports : ∀ report report', stack.MayReport template parameters world report →
    stack.MayReport other parameters world' report' → report.Concurs report'

/-! ### Runs that concur -/

namespace Run

variable {run other : Run σ}

theorem removal?_eq_some {id : String} {outcome : Outcome} :
  run.removal? id = some outcome
    ↔ run.result? (.delete id) = some (.ok outcome) ∧ (outcome = .deleted ∨ outcome = .retained)
  := by
  unfold removal?
  split
  · next deleted => simpa [deleted, eq_comm] using Or.inl
  · next retained => simpa [retained, eq_comm] using Or.inr
  · next undeleted unretained =>
    constructor
    · rintro ⟨⟩
    · rintro ⟨finished, rfl | rfl⟩
      · exact absurd finished undeleted
      · exact absurd finished unretained

/-- When the same has been applied, the same is known. -/
theorem capabilities_congr {setting : Setting σ} (completed : ∀ id, other.completed? id = run.completed? id) :
  other.capabilities setting = run.capabilities setting
  := by
  unfold capabilities view
  simp only [completed]

theorem Concurs.completed? {desired : Template} (concurs : run.Concurs desired other) (id : String) :
  other.completed? id = run.completed? id
  := by
  apply Option.ext
  intro physical
  rw [completed?_eq_some, completed?_eq_some]
  simp only [concurs.applied id physical]

end Run

namespace Setting.Relists

variable {setting other : Setting σ} (relists : setting.Relists other) {world world' : σ}
  {middle middle' last last' : Run σ} {reply : Request → Nat → Answer}

include relists

/-- Completed updates concur when they differ only in the order in which the templates list the resources. -/
theorem concurs (regular : setting.providers.Regular world reply) (regular' : setting.providers.Regular world' reply)
    (completes : setting.Completes world middle last) (completes' : other.Completes world' middle' last') :
  last.Concurs setting.desired last'
  := by
  have regularOther : other.providers.Regular world reply := relists.providers ▸ regular
  have regularOther' : other.providers.Regular world' reply := relists.providers ▸ regular'
  have succeeds (goal : Goal) (outcome : Outcome) :
      last.result? goal = some (.ok outcome) ↔ last'.result? goal = some (.ok outcome) :=
    ⟨relists.succeeds regular regular' completes' completes,
      relists.symm.succeeds regularOther' regularOther completes completes'⟩
  have fails (goal : Goal) (declared : ∀ id, goal = .update id → setting.desired.isResource id) :
      (∃ error, last.result? goal = some (.error error)) ↔ ∃ error, last'.result? goal = some (.error error) := by
    constructor
    · rintro ⟨error, failed⟩
      exact relists.fails regular regular' completes' completes declared failed
    · rintro ⟨error, failed⟩
      rw [← relists.desired.alike.isResource] at declared
      exact relists.symm.fails regularOther' regularOther completes completes' declared failed
  constructor
  · intro id physical operation
    exact succeeds _ _
  · intro id
    exact succeeds _ _
  · rintro id declared
    apply fails
    rintro _ ⟨⟩
    exact declared
  · intro id
    apply Option.ext
    intro outcome
    rw [Run.removal?_eq_some, Run.removal?_eq_some, succeeds]
  · intro id
    exact fails _ nofun

/-! ### What is reported of them -/

variable (concurs : last.Concurs setting.desired last')

include concurs

theorem capabilities_eq :
  last'.capabilities other = last.capabilities setting
  := by
  rw [relists.capabilities]
  exact Run.capabilities_congr concurs.completed?

theorem output_eq :
  last'.output other = last.output setting
  := by
  funext output
  unfold Run.output
  rw [relists.capabilities_eq concurs, relists.inputs, relists.desired.alike.evaluate]

theorem outputs_eq :
  last'.outputs other = last.outputs setting
  := by
  unfold Run.outputs
  rw [relists.output_eq concurs, relists.desired.outputs]

theorem outputFailures_eq :
  last'.outputFailures other = last.outputFailures setting
  := by
  unfold Run.outputFailures
  rw [relists.output_eq concurs, relists.desired.outputs]

theorem recordedResource?_eq (id : String) :
  last'.recordedResource? other id = last.recordedResource? setting id
  := by
  unfold Run.recordedResource?
  rw [concurs.completed?, ← concurs.removed, relists.previous]

/-- The same failures of resources are reported. -/
theorem mem_failures (id : String) :
  id ∈ (last'.failures (other.desired.resources.names.map .update ++ other.removals.map .delete)).map (·.1)
    ↔ id ∈ (last.failures (setting.desired.resources.names.map .update ++ setting.removals.map .delete)).map (·.1)
  := by
  have mem (run : Run σ) (goals : List Goal) : id ∈ (run.failures goals).map (·.1)
      ↔ ∃ goal ∈ goals, goal.logicalId = id ∧ ∃ error, run.result? goal = some (.error error) := by
    rw [List.mem_map]
    constructor
    · rintro ⟨⟨_, error⟩, hm, rfl⟩
      obtain ⟨goal, hg, hi, failed⟩ := Run.mem_failures.mp hm
      exact ⟨goal, hg, hi, error, failed⟩
    · rintro ⟨goal, hg, hi, error, failed⟩
      exact ⟨(id, error), Run.mem_failures.mpr ⟨goal, hg, hi, failed⟩, rfl⟩
  rw [mem, mem, relists.removals]
  apply exists_congr
  intro goal
  cases goal with
  | update other' =>
    simp only [List.mem_append, List.mem_map, Goal.update.injEq, exists_eq_right, reduceCtorEq, and_false,
      exists_false, or_false, relists.desired.mem_names]
    apply and_congr_right
    intro declared
    rw [concurs.failed other' (by rwa [Template.isResource, Table.contains_iff])]
  | delete other' =>
    rw [concurs.unremoved other']
    simp

theorem mem_updateFailures (id : String) :
  id ∈ (Stack.updateFailures other last' other.removals).map (·.1)
    ↔ id ∈ (Stack.updateFailures setting last setting.removals).map (·.1)
  := by
  have failures := relists.mem_failures concurs
  unfold Stack.updateFailures
  rw [relists.outputFailures_eq concurs]
  split
  · next none =>
    rw [none] at failures
    have none' := List.map_eq_nil_iff.mp (List.eq_nil_iff_forall_not_mem.mpr fun id hm =>
      List.not_mem_nil ((failures id).mpr hm))
    rw [none']
  · next some =>
    split
    · next none' =>
      rw [none'] at failures
      have none := List.map_eq_nil_iff.mp (List.eq_nil_iff_forall_not_mem.mpr fun id hm =>
        List.not_mem_nil ((failures id).mp hm))
      exact absurd none some
    · exact failures id

end Setting.Relists

namespace Stack

variable {stack : Stack σ} {template other : Template} {parameters : Table String} {world world' : σ}
  {reply : Request → Nat → Answer}

/-- A refused update has failed in nothing. -/
theorem failed_refused {error : StackError} (rejected : stack.preflight template parameters = .error error) :
  ({ stack, world, error := some error } : Report σ).failed = []
  := by
  unfold Report.failed
  split
  · next failures he =>
    obtain rfl := Option.some.inj he
    obtain ⟨check, raised⟩ := preflight_eq_error.mp rejected
    cases raised with
    | graph unsound => cases Template.isPreflight_acyclicGraph unsound
    | parameters built invalid => cases ParameterValues.isPreflight_validate invalid
    | rules built valid decided violated => cases Template.isPreflight_checkRules violated
  · rfl

theorem failed_updateReport (stack : Stack σ) (template : Template) (inputs : Inputs) (run : Run σ) :
  (stack.updateReport template inputs run).failed
    = (updateFailures (stack.updateSetting template inputs) run
        (stack.updateSetting template inputs).removals).map (·.1)
  := by
  unfold Report.failed
  rw [error_updateReport]
  cases updateFailures (stack.updateSetting template inputs) run (stack.updateSetting template inputs).removals with
  | nil => rfl
  | cons failure rest => rfl

theorem error_updateReport_eq_none {inputs : Inputs} {run : Run σ} :
  (stack.updateReport template inputs run).error = none
    ↔ (stack.updateReport template inputs run).failed = []
  := by
  rw [failed_updateReport, error_updateReport]
  cases updateFailures (stack.updateSetting template inputs) run (stack.updateSetting template inputs).removals with
  | nil => simp
  | cons failure rest => simp

/-- With another order of resources, the same is refused. -/
theorem exists_preflight (relists : template.Relists other) {graph : Graph} {inputs : Inputs}
    (passed : stack.preflight template parameters = .ok (graph, inputs)) :
  ∃ graph', stack.preflight other parameters = .ok (graph', inputs)
  := by
  obtain ⟨built, validated⟩ := preflight_eq_ok.mp passed
  obtain ⟨graph', built'⟩ := relists.exists_acyclicGraph (Template.acyclicGraph_eq_ok.mpr built)
  rw [← relists.validateInputs] at validated
  exact ⟨graph', preflight_eq_ok.mpr ⟨Template.acyclicGraph_eq_ok.mp built', validated⟩⟩

theorem relists_updateSetting (stack : Stack σ) (relists : template.Relists other) (inputs : Inputs) :
  (stack.updateSetting template inputs).Relists (stack.updateSetting other inputs)
  := ⟨rfl, relists⟩

/-- When runs concur, so do the reports of them. -/
theorem concurs_updateReport (relists : template.Relists other) {inputs : Inputs} {middle middle' last last' : Run σ}
    (completes : (stack.updateSetting template inputs).Completes world middle last)
    (completes' : (stack.updateSetting other inputs).Completes world' middle' last')
    (concurs : last.Concurs template last') :
  (stack.updateReport template inputs last).Concurs (stack.updateReport other inputs last')
  := by
  have settings := stack.relists_updateSetting relists inputs
  have failed (id : String) : id ∈ (stack.updateReport template inputs last).failed
      ↔ id ∈ (stack.updateReport other inputs last').failed := by
    rw [failed_updateReport, failed_updateReport, settings.mem_updateFailures concurs]
  constructor
  · rw [error_updateReport_eq_none, error_updateReport_eq_none, List.eq_nil_iff_forall_not_mem,
      List.eq_nil_iff_forall_not_mem]
    simp only [failed]
  · exact failed
  · intro id
    change (last.recordedState (stack.updateSetting template inputs)).resources.get? id
      = (last'.recordedState (stack.updateSetting other inputs)).resources.get? id
    rw [completes.sound.2.1.get?_recordedState, completes'.sound.2.1.get?_recordedState,
      settings.recordedResource?_eq concurs]
  · intro name
    change (last.outputs (stack.updateSetting template inputs)).get? name
      = (last'.outputs (stack.updateSetting other inputs)).get? name
    rw [settings.outputs_eq concurs]

/-- When providers are regular, updates towards templates that differ only in the order of their resources come to
the same end, under whatever schedules. -/
theorem concurs_of_relists (relists : template.Relists other) (regular : stack.providers.Regular world reply)
    (regular' : stack.providers.Regular world' reply) :
  stack.Concurs parameters template other world world'
  := by
  have runs (graph graph' : Graph) (inputs inputs' : Inputs) (middle middle' last last' : Run σ)
      (passed : stack.preflight template parameters = .ok (graph, inputs))
      (completes : (stack.updateSetting template inputs).Completes world middle last)
      (passed' : stack.preflight other parameters = .ok (graph', inputs'))
      (completes' : (stack.updateSetting other inputs').Completes world' middle' last') :
      inputs' = inputs ∧ last.Concurs template last' := by
    obtain ⟨_, passed''⟩ := exists_preflight relists passed
    obtain ⟨-, rfl⟩ := Prod.mk.inj (Except.ok.inj (passed'.symm.trans passed''))
    exact ⟨rfl, (stack.relists_updateSetting relists _).concurs regular regular' completes completes'⟩
  constructor
  · intro graph graph' inputs inputs' middle middle' last last' passed completes passed' completes'
    exact (runs _ _ _ _ _ _ _ _ passed completes passed' completes').2
  · intro report report' reports reports'
    cases reports with
    | refused rejected =>
      cases reports' with
      | refused rejected' =>
        refine ⟨by simp, ?_, fun _ => rfl, fun _ => rfl⟩
        rw [failed_refused rejected, failed_refused rejected']
        exact fun _ => Iff.rfl
      | completed passed' =>
        obtain ⟨_, passed⟩ := exists_preflight relists.symm passed'
        cases rejected.symm.trans passed
    | completed passed completes =>
      cases reports' with
      | refused rejected' =>
        obtain ⟨_, passed'⟩ := exists_preflight relists passed
        cases rejected'.symm.trans passed'
      | completed passed' completes' =>
        obtain ⟨rfl, concurs⟩ := runs _ _ _ _ _ _ _ _ passed completes passed' completes'
        exact concurs_updateReport relists completes completes' concurs

end Stack

/-! ### An example -/

/-- The template with a resource and another one that refers to it, which is listed first. -/
def Template.backwards : Template :=
  { chained with
    resources := .ofList
      [("Top", { type := "T", properties := some (.object [("On", .ref "Base")]) }), ("Base", { type := "T" })] }

theorem Template.relists_backwards :
  chained.Relists backwards
  := ⟨rfl, .swap _ _ _⟩

/-- A provider whose answers depend on the request alone is regular. -/
theorem Stack.regular_answering (answer : Request → Answer) :
  (answering answer).providers.Regular () fun request _ => answer request
  := by
  intro exchanges world _ request provider serving
  obtain rfl := Except.ok.inj serving
  rfl

/-- Two updates that list the resources in different orders, and go well under different schedules, come to the same
end. -/
theorem Stack.exists_concurs_chained :
  (∃ report, obliging.MayReport .chained .empty () report ∧ report.error = none)
    ∧ (∃ report, obliging.MayReport .backwards .empty () report ∧ report.error = none)
    ∧ obliging.Concurs .empty .chained .backwards () ()
  := by
  obtain ⟨graph, middle, last, passed, completes, succeeded⟩ := exists_completes_obliging
  refine ⟨⟨_, .completed passed completes, succeeded⟩, ?_, ?_⟩
  · obtain ⟨graph', passed'⟩ := exists_preflight Template.relists_backwards passed
    let setting := obliging.updateSetting .backwards {}
    have made : ((setting.requested ()).steps? setting
        [.update "Top", .update "Top", .update "Base", .update "Base", .update "Base", .update "Top",
          .update "Top"]).any fun last =>
            last.isOver && (last.failures (setting.desired.resources.names.map .update)).isEmpty
              && (last.outputFailures setting).isEmpty := by
      decide +kernel
    obtain ⟨middle, scheduled, holds⟩ := (Option.any_eq_true _ _).mp made
    simp only [Bool.and_eq_true, List.isEmpty_iff] at holds
    obtain ⟨⟨ended, updated⟩, evaluated⟩ := holds
    have nothing : setting.removals = [] := Setting.removals_eq_nil rfl
    have completes' := Setting.completes_of_nothing (Run.leads_steps? scheduled) ended updated nothing
    exact ⟨_, .completed passed' completes', error_updateReport_removing nothing updated evaluated⟩
  · exact concurs_of_relists Template.relists_backwards (regular_answering _) (regular_answering _)

end Reconcile
