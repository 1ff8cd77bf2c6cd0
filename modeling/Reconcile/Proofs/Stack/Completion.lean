import Mathlib.Tactic.Common
import Reconcile.Proofs.Graph.Cycles
import Reconcile.Proofs.Graph.Edges
import Reconcile.Proofs.Run.Distinct
import Reconcile.Proofs.Run.Removal
import Reconcile.Proofs.Run.Steadiness
import Reconcile.Stack

/-!
# Completed updates

An update first brings the declared resources up to date, under any schedule.  If none of them
failed it goes on, again under any schedule, to remove the recorded resources that have to go.
When it has come to its end, what became of a declared resource is what the first part made of it.
-/

namespace Reconcile

variable {σ : Type}

/-! ### Resources that have to go -/

namespace StackState

variable {previous : StackState} {desired : Template} {excluded : List String} {id : String}

/-- The recorded resources that have to go are deleted in their turn, and no others. -/
theorem mem_deletionOrder :
  id ∈ previous.deletionOrder desired excluded ↔ previous.isDoomed desired excluded id
  := by
  unfold deletionOrder
  rw [List.mem_append]
  constructor
  · rintro (ordered | rest)
    · exact (List.mem_filter.mp ordered).2
    · exact (Bool.and_eq_true_iff.mp (List.mem_filter.mp rest).2).1
  · intro doomed
    by_cases ordered : id ∈ previous.recordedOrder.reverse.filter (previous.isDoomed desired excluded)
    · exact .inl ordered
    · right
      have recorded : id ∈ previous.resources.names := by
        rw [← Table.contains_iff]
        exact (Bool.and_eq_true_iff.mp doomed).1
      rw [List.mem_filter]
      refine ⟨recorded, ?_⟩
      simpa [doomed] using ordered

/-- Only recorded resources are deleted. -/
theorem contains_of_mem_deletionOrder (h : id ∈ previous.deletionOrder desired excluded) :
  previous.resources.contains id
  := (Bool.and_eq_true_iff.mp (mem_deletionOrder.mp h)).1

end StackState

/-- The recorded resources that have to go. -/
def Setting.removals (setting : Setting σ) : List String :=
  setting.previous.deletionOrder setting.desired (Stack.excluded setting.desired setting.inputs)

theorem Setting.contains_of_mem_removals (setting : Setting σ) :
  ∀ id ∈ setting.removals, setting.previous.resources.contains id
  := fun _ => StackState.contains_of_mem_deletionOrder

/-- When no recorded resource has to go, none is removed. -/
theorem Setting.removals_eq_nil_of_forall {setting : Setting σ}
    (stay : ∀ id ∈ setting.previous.resources.names,
      ¬ setting.previous.isDoomed setting.desired (Stack.excluded setting.desired setting.inputs) id) :
  setting.removals = []
  := by
  apply List.eq_nil_iff_forall_not_mem.mpr
  intro id member
  apply stay id _ (StackState.mem_deletionOrder.mp member)
  rw [← Table.contains_iff]
  exact StackState.contains_of_mem_deletionOrder member

/-- Where nothing is recorded, nothing has to go. -/
theorem Setting.removals_eq_nil {setting : Setting σ} (nothing : setting.previous.resources.names = []) :
  setting.removals = []
  := by
  apply removals_eq_nil_of_forall
  rw [nothing]
  exact List.forall_mem_nil _

/-! ### Updates -/

/-- An update has come to its end with the run `last`; when all declared resources had been dealt with, the
run was `middle`. -/
structure Setting.Completes (setting : Setting σ) (world : σ) (middle last : Run σ) : Prop where
  updates : ∃ count, Run.Leads setting (setting.requested world) count middle
  updated : middle.isOver
  removes : middle.failures (setting.desired.resources.names.map .update) = [] →
    (∃ count, Run.Leads setting (middle.removing setting.removals) count last) ∧ last.isOver
  stops : middle.failures (setting.desired.resources.names.map .update) ≠ [] → last = middle

/-- When nothing has to go, an update is completed once the declared resources have been dealt with. -/
theorem Setting.completes_of_nothing {setting : Setting σ} {world : σ} {middle : Run σ}
    (updates : ∃ count, Run.Leads setting (setting.requested world) count middle) (updated : middle.isOver)
    (unfailed : middle.failures (setting.desired.resources.names.map .update) = [])
    (nothing : setting.removals = []) :
  setting.Completes world middle (middle.removing [])
  := by
  refine ⟨updates, updated, ?_, fun failed => absurd unfailed failed⟩
  intro _
  rw [nothing]
  exact ⟨⟨0, .here⟩, updated⟩

/-- An update may have come so far, under some schedule. -/
inductive Setting.Reaches (setting : Setting σ) (world : σ) : Run σ → Prop where
  | updating {count : Nat} {run : Run σ} (leads : Run.Leads setting (setting.requested world) count run) :
    Reaches setting world run
  | removing {count count' : Nat} {middle run : Run σ}
      (leads : Run.Leads setting (setting.requested world) count middle) (updated : middle.isOver)
      (unfailed : middle.failures (setting.desired.resources.names.map .update) = [])
      (leads' : Run.Leads setting (middle.removing setting.removals) count' run) :
    Reaches setting world run

namespace Run

variable {setting : Setting σ} {run : Run σ}

/-- A run has failures just when one of the tasks has failed. -/
theorem failures_eq_nil {goals : List Goal} :
  run.failures goals = [] ↔ ∀ goal ∈ goals, ∀ error, run.result? goal ≠ some (.error error)
  := by
  unfold failures
  rw [List.filterMap_eq_nil_iff]
  apply forall₂_congr
  intro goal _
  split
  · next error failed => simp [failed]
  · next unfailed => simpa using unfailed

theorem failures_append (run : Run σ) (first second : List Goal) :
  run.failures (first ++ second) = run.failures first ++ run.failures second
  := List.filterMap_append

/-- A failure is reported for every goal that has failed, in order. -/
theorem map_failures (goal : String → Goal) (named : ∀ id, (goal id).logicalId = id) (run : Run σ)
    (ids : List String) :
  (run.failures (ids.map goal)).map (·.1)
    = ids.filter fun id => (run.result? (goal id)).any fun result => !result.isOk
  := by
  induction ids with
  | nil => rfl
  | cons id rest ih =>
    unfold failures at ih ⊢
    simp only [List.map_cons, List.filterMap_cons, List.filter_cons]
    match run.result? (goal id) with
    | none => simpa using ih
    | some (.ok outcome) => simpa [Except.isOk, Except.toBool] using ih
    | some (.error error) => simpa [Except.isOk, Except.toBool, named] using ih

theorem mem_failures {goals : List Goal} {id : String} {error : StackError} :
  (id, error) ∈ run.failures goals
    ↔ ∃ goal ∈ goals, goal.logicalId = id ∧ run.result? goal = some (.error error)
  := by
  unfold failures
  rw [List.mem_filterMap]
  apply exists_congr
  intro goal
  apply and_congr_right
  intro _
  match run.result? goal with
  | none => simp
  | some (.ok outcome) => simp
  | some (.error error') => simp

/-- A task that is there stays there. -/
theorem Leads.exists_progress {first : Run σ} {count : Nat} (leads : Leads setting first count run) {goal : Goal}
    (h : ∃ progress, first.progress? goal = some progress) :
  ∃ progress, run.progress? goal = some progress
  := by
  apply leads.invariant fun run => ∃ progress, run.progress? goal = some progress
  · rintro run next other ⟨progress, hp⟩ hs
    obtain ⟨_, _, _, -, -, entered, -⟩ := step?_spec hs
    rw [entered.progress?_eq, hp]
    split
    · exact ⟨_, rfl⟩
    · exact ⟨_, rfl⟩
  · rintro run later ⟨progress, hp⟩
    exact ⟨progress, by rw [progress?_wait, hp]⟩
  · apply h

/-- What was asked for has a result when a run is over. -/
theorem exists_result_of_isOver {goal : Goal} (ended : run.isOver)
    (h : ∃ progress, run.progress? goal = some progress) :
  ∃ result, run.result? goal = some result
  := by
  obtain ⟨progress, hp⟩ := h
  apply Option.isSome_iff_exists.mp (isOver_iff.mp ended goal progress hp)

/-- Beginning to remove resources changes nothing but the tasks that do so. -/
theorem Sound.removing (sound : run.Sound setting) (ids : List String) :
  (run.removing ids).Sound setting ∧ Since setting run (run.removing ids)
  := by
  have kept (goal : Goal) : Kept run { run with doomed := ids } goal := by
    cases goal with
    | update id => exact .inl rfl
    | delete id => exact .inl rfl
  obtain ⟨sound₁, since₁⟩ := sound.keeps kept rfl rfl
  obtain ⟨sound₂, since₂⟩ := sound₁.requests (ids.map Goal.delete)
  exact ⟨sound₂, since₁.trans since₂⟩

theorem exists_progress_removing (run : Run σ) {ids : List String} {id : String} (h : id ∈ ids) :
  ∃ progress, (run.removing ids).progress? (.delete id) = some progress
  := by
  rw [progress?_removing, if_pos (List.mem_map_of_mem h)]
  cases run.progress? (.delete id) with
  | none => exact ⟨_, rfl⟩
  | some progress => exact ⟨_, rfl⟩

/-- Beginning to remove resources asks no provider. -/
theorem Faithful.removing (faithful : run.Faithful setting) (ids : List String) :
  (run.removing ids).Faithful setting
  := by
  apply Faithful.requests
  constructor
  · apply faithful.answered
  · intro goal
    cases goal with
    | update id => apply faithful.called (.update id)
    | delete id => apply faithful.called (.delete id)

/-- Beginning to remove resources changes nothing of those that have been applied. -/
theorem Steady.removing {view : ResourceView} (steady : run.Steady view) (ids : List String) :
  (run.removing ids).Steady view
  := by
  intro id known physical available completed
  apply steady id known physical available
  simpa using completed

theorem Distinct.removing (distinct : run.Distinct) (ids : List String) :
  (run.removing ids).Distinct
  := by
  simpa [Distinct] using distinct

/-- What holds whenever the removal of some recorded resources has come some way. -/
theorem Leads.removes {world : σ} {count count' : Nat} {middle : Run σ} {ids : List String}
    (leads : Leads setting (setting.requested world) count middle)
    (recorded : ∀ id ∈ ids, setting.previous.resources.contains id)
    (leads' : Leads setting (middle.removing ids) count' run) :
  run.Sound setting ∧ run.Dismantling setting ∧ run.doomed = ids
  := by
  obtain ⟨sound, -⟩ := leads.sound (setting.sound_requested world)
  obtain ⟨sound, -⟩ := sound.removing ids
  refine ⟨(leads'.sound sound).1, ?_, leads'.doomed_eq.trans (middle.doomed_removing ids)⟩
  exact leads'.dismantling sound (leads.dismantling_removing recorded)

end Run

namespace Setting

variable {setting : Setting σ} {world : σ} {middle last : Run σ} {id : String}

/-! ### Runs that an update reaches -/

/-- What holds at first, and is kept by steps, by waiting and when the removal of resources begins, holds
whenever an update has come some way. -/
theorem Reaches.invariant (holds : Run σ → Prop) {run : Run σ} (reaches : setting.Reaches world run)
    (first : holds (setting.requested world))
    (step : ∀ run next goal, holds run → run.step? setting goal = some next → holds next)
    (wait : ∀ run later, holds run → holds { run with now := later })
    (removing : ∀ run, holds run → holds (run.removing setting.removals)) :
  holds run
  := by
  cases reaches with
  | updating leads => apply leads.invariant holds step wait first
  | removing leads updated unfailed leads' =>
    apply leads'.invariant holds step wait
    apply removing
    apply leads.invariant holds step wait first

theorem Reaches.sound {run : Run σ} (reaches : setting.Reaches world run) :
  run.Sound setting
  := by
  apply reaches.invariant fun run => run.Sound setting
  · apply setting.sound_requested
  · intro run next goal sound h
    exact (sound.step h).1
  · intro run later sound
    exact (sound.wait later).1
  · intro run sound
    exact (sound.removing _).1

theorem Reaches.faithful {run : Run σ} (reaches : setting.Reaches world run) :
  run.Faithful setting
  := by
  cases reaches with
  | updating leads => apply leads.faithful (Run.faithful_requested setting world)
  | removing leads updated unfailed leads' =>
    apply leads'.faithful
    apply Run.Faithful.removing
    apply leads.faithful (Run.faithful_requested setting world)

theorem Reaches.steady {run : Run σ} (reaches : setting.Reaches world run) {view : ResourceView}
    (settles : setting.Settles view) :
  run.Steady view
  := by
  have both : run.Sound setting ∧ run.Steady view := by
    apply reaches.invariant fun run => run.Sound setting ∧ run.Steady view
    · exact ⟨setting.sound_requested world, Run.steady_requested setting world view⟩
    · rintro run next goal ⟨sound, steady⟩ h
      exact ⟨(sound.step h).1, steady.step settles sound h⟩
    · rintro run later ⟨sound, steady⟩
      exact ⟨(sound.wait later).1, steady⟩
    · rintro run ⟨sound, steady⟩
      exact ⟨(sound.removing _).1, steady.removing _⟩
  exact both.2

/-- No name is repeated in what an update applies. -/
theorem Reaches.distinct {run : Run σ} (reaches : setting.Reaches world run) (given : setting.Distinct) :
  run.Distinct
  := by
  have all : run.Sound setting ∧ run.Faithful setting ∧ run.Distinct := by
    apply reaches.invariant fun run => run.Sound setting ∧ run.Faithful setting ∧ run.Distinct
    · exact ⟨setting.sound_requested world, Run.faithful_requested setting world,
        Run.distinct_requested setting world⟩
    · rintro run next goal ⟨sound, faithful, distinct⟩ h
      exact ⟨(sound.step h).1, faithful.step h, distinct.step given sound faithful h⟩
    · rintro run later ⟨sound, faithful, distinct⟩
      exact ⟨(sound.wait later).1, faithful.wait later, distinct⟩
    · rintro run ⟨sound, faithful, distinct⟩
      exact ⟨(sound.removing _).1, faithful.removing _, distinct.removing _⟩
  exact all.2.2

namespace Completes

variable (completes : setting.Completes world middle last)

include completes

/-- The whole of an update is sound. -/
theorem sound :
  middle.Sound setting ∧ last.Sound setting ∧ Run.Since setting middle last
  := by
  obtain ⟨count, leads⟩ := completes.updates
  obtain ⟨sound, -⟩ := leads.sound (setting.sound_requested world)
  by_cases unfailed : middle.failures (setting.desired.resources.names.map .update) = []
  · obtain ⟨⟨count', leads'⟩, -⟩ := completes.removes unfailed
    obtain ⟨sound₁, since₁⟩ := sound.removing setting.removals
    obtain ⟨sound₂, since₂⟩ := leads'.sound sound₁
    exact ⟨sound, sound₂, since₁.trans since₂⟩
  · obtain rfl := completes.stops unfailed
    exact ⟨sound, sound, sound.since_self⟩

/-- Both ends of the two parts of an update are reached by it. -/
theorem reaches :
  setting.Reaches world middle ∧ setting.Reaches world last
  := by
  obtain ⟨count, leads⟩ := completes.updates
  refine ⟨.updating leads, ?_⟩
  by_cases unfailed : middle.failures (setting.desired.resources.names.map .update) = []
  · obtain ⟨⟨count', leads'⟩, -⟩ := completes.removes unfailed
    exact .removing leads completes.updated unfailed leads'
  · rw [completes.stops unfailed]
    exact .updating leads

theorem isOver :
  last.isOver
  := by
  by_cases unfailed : middle.failures (setting.desired.resources.names.map .update) = []
  · exact (completes.removes unfailed).2
  · rw [completes.stops unfailed]
    apply completes.updated

/-- Every declared resource has been dealt with in the first part, and that is what became of it. -/
theorem exists_result {resource : Resource}
    (declared : setting.desired.resources.get? id = some resource) :
  ∃ result, middle.result? (.update id) = some result ∧ last.result? (.update id) = some result
  := by
  obtain ⟨count, leads⟩ := completes.updates
  have requested : ∃ progress, (setting.requested world).progress? (.update id) = some progress := by
    use .ready
    rw [progress?_requested, if_pos]
    apply List.mem_map_of_mem
    exact (Table.exists_get?_iff _ _).mp ⟨resource, declared⟩
  obtain ⟨result, finished⟩ := Run.exists_result_of_isOver completes.updated (leads.exists_progress requested)
  exact ⟨result, finished, completes.sound.2.2.kept _ _ finished⟩

/-- The second part of an update adds no failures of declared resources. -/
theorem failures_eq :
  last.failures (setting.desired.resources.names.map .update)
    = middle.failures (setting.desired.resources.names.map .update)
  := by
  unfold Run.failures
  apply List.filterMap_congr
  intro goal hg
  obtain ⟨id, declared, rfl⟩ := List.mem_map.mp hg
  obtain ⟨resource, declared⟩ := (Table.exists_get?_iff _ _).mpr declared
  obtain ⟨result, middleFinished, finished⟩ := completes.exists_result declared
  rw [middleFinished, finished]

/-- When an update has come to its end, its removals are in order, as far as it came to them. -/
theorem dismantling :
  ∃ ids, ({ last with doomed := ids } : Run σ).Dismantling setting ∧ ∀ id ∈ ids, id ∈ setting.removals
  := by
  obtain ⟨count, leads⟩ := completes.updates
  by_cases unfailed : middle.failures (setting.desired.resources.names.map .update) = []
  · obtain ⟨⟨count', leads'⟩, -⟩ := completes.removes unfailed
    obtain ⟨-, dismantling, doomed⟩ := leads.removes setting.contains_of_mem_removals leads'
    use last.doomed, dismantling
    rw [doomed]
    exact fun _ listed => listed
  · rw [completes.stops unfailed]
    exact ⟨[], leads.dismantling_removing (List.forall_mem_nil _), List.forall_mem_nil _⟩

theorem deleted_iff :
  last.result? (.delete id) = some (.ok .deleted) ↔ ∃ exchange ∈ last.exchanges, exchange.Deletes id
  := by
  obtain ⟨ids, dismantling, -⟩ := completes.dismantling
  exact dismantling.answered id

theorem mem_removals_of_result {result : Except StackError Outcome}
    (finished : last.result? (.delete id) = some result) :
  id ∈ setting.removals
  := by
  obtain ⟨ids, dismantling, listed⟩ := completes.dismantling
  exact listed id (dismantling.tasks id _ (Run.result?_eq_some.mp finished)).1

/-- Only when nothing has failed to be brought up to date, resources are removed. -/
theorem unfailed_of_result {result : Except StackError Outcome}
    (finished : last.result? (.delete id) = some result) :
  middle.failures (setting.desired.resources.names.map .update) = []
  := by
  by_contra failed
  obtain ⟨count, leads⟩ := completes.updates
  obtain rfl := completes.stops failed
  rw [Run.result?, leads.no_deletion] at finished
  cases finished

/-- And then all that is to be removed has been dealt with. -/
theorem exists_removal (unfailed : middle.failures (setting.desired.resources.names.map .update) = [])
    (listed : id ∈ setting.removals) :
  ∃ result, last.result? (.delete id) = some result
  := by
  obtain ⟨⟨count, leads⟩, ended⟩ := completes.removes unfailed
  exact Run.exists_result_of_isOver ended (leads.exists_progress (middle.exists_progress_removing listed))

end Completes

end Setting

namespace Stack

variable {stack : Stack σ} {template : Template} {parameters : Table String} {graph : Graph} {inputs : Inputs}

theorem preflight_eq_ok :
  stack.preflight template parameters = .ok (graph, inputs)
    ↔ (template.graph = .ok graph ∧ graph.cyclicNodes = [])
      ∧ template.validateInputs parameters stack.config = .ok inputs
  := by
  rw [← Template.acyclicGraph_eq_ok]
  constructor
  · intro h
    obtain ⟨graph, hg, h⟩ := Except.bind_eq_ok.mp h
    obtain ⟨inputs, hi, ⟨⟩⟩ := Except.bind_eq_ok.mp h
    exact ⟨hg, hi⟩
  · rintro ⟨hg, hi⟩
    exact Except.bind_eq_ok.mpr ⟨graph, hg, Except.bind_eq_ok.mpr ⟨inputs, hi, rfl⟩⟩

/-- An update that comes to its end is completed, under the schedule that it is driven by. -/
theorem completes_of_update {world : σ} (passed : stack.preflight template parameters = .ok (graph, inputs))
    (ended : (stack.update template parameters world).isOver) :
  ∃ middle last, (stack.updateSetting template inputs).Completes world middle last
    ∧ stack.update template parameters world = stack.updateReport template inputs last
  := by
  have updated : stack.update template parameters world
      = stack.updateReport template inputs (stack.updateRun template inputs world) := by
    rw [update, passed]
  rw [updated] at ended
  let setting := stack.updateSetting template inputs
  let middle := setting.updateAll template.resources.names (setting.start world)
  have updates : ∃ count, Run.Leads setting (setting.requested world) count middle :=
    Run.leads_drive setting _ _ _
  refine ⟨middle, stack.updateRun template inputs world, ?_, updated⟩
  change (stack.updateRun template inputs world).isOver at ended
  unfold updateRun at ended ⊢
  dsimp only at ended ⊢
  split at ended
  · next goesOn =>
    rw [if_pos goesOn]
    simp only [Bool.and_eq_true, List.isEmpty_iff] at goesOn
    obtain ⟨isOver, unfailed⟩ := goesOn
    refine ⟨updates, isOver, ?_, fun failed => absurd unfailed failed⟩
    intro _
    exact ⟨Run.leads_drive setting _ _ _, ended⟩
  · next stops =>
    rw [if_neg stops]
    refine ⟨updates, ended, ?_, fun _ => rfl⟩
    intro unfailed
    simp only [Bool.and_eq_true, List.isEmpty_iff, not_and] at stops
    exact absurd unfailed (stops ended)

/-- What may become of a stack that is to be brought to the state that a template describes: this is refused,
or an update comes to its end under some schedule. -/
inductive MayReport (stack : Stack σ) (template : Template) (parameters : Table String) (world : σ) :
    Report σ → Prop where
  | refused {error : StackError} (rejected : stack.preflight template parameters = .error error) :
    MayReport stack template parameters world { stack, world, error := some error }
  | completed {graph : Graph} {inputs : Inputs} {middle last : Run σ}
      (passed : stack.preflight template parameters = .ok (graph, inputs))
      (completes : (stack.updateSetting template inputs).Completes world middle last) :
    MayReport stack template parameters world (stack.updateReport template inputs last)

/-- The report of an update that comes to its end is one of these. -/
theorem mayReport_update {world : σ} (ended : (stack.update template parameters world).isOver) :
  stack.MayReport template parameters world (stack.update template parameters world)
  := by
  match hp : stack.preflight template parameters with
  | .error error =>
    rw [update, hp]
    exact .refused hp
  | .ok (graph, inputs) =>
    obtain ⟨middle, last, completes, he⟩ := completes_of_update hp ended
    rw [he]
    exact .completed hp completes

theorem error_updateReport (stack : Stack σ) (template : Template) (inputs : Inputs) (run : Run σ) :
  (stack.updateReport template inputs run).error
    = if (updateFailures (stack.updateSetting template inputs) run
          (stack.updateSetting template inputs).removals).isEmpty then none
      else some (.updateFailed (updateFailures (stack.updateSetting template inputs) run
          (stack.updateSetting template inputs).removals))
  := rfl

theorem updateFailures_eq_nil {setting : Setting σ} {run : Run σ} {deleted : List String} :
  updateFailures setting run deleted = []
    ↔ run.failures (setting.desired.resources.names.map .update) = []
        ∧ run.failures (deleted.map .delete) = [] ∧ run.outputFailures setting = []
  := by
  unfold updateFailures
  rw [Run.failures_append]
  split
  · next none =>
    obtain ⟨updated, removed⟩ := List.append_eq_nil_iff.mp none
    simp [updated, removed]
  · next some =>
    constructor
    · intro none
      exact absurd none some
    · rintro ⟨updated, removed, -⟩
      rw [updated, removed] at some
      exact absurd rfl some

/-- When nothing has to go, an update goes well if nothing declared has failed and the outputs have values. -/
theorem error_updateReport_removing {run : Run σ} (nothing : (stack.updateSetting template inputs).removals = [])
    (unfailed : run.failures (template.resources.names.map .update) = [])
    (evaluated : run.outputFailures (stack.updateSetting template inputs) = []) :
  (stack.updateReport template inputs (run.removing [])).error = none
  := by
  have none : updateFailures (stack.updateSetting template inputs) (run.removing [])
      (stack.updateSetting template inputs).removals = [] := by
    rw [nothing]
    exact updateFailures_eq_nil.mpr ⟨unfailed, rfl, evaluated⟩
  rw [error_updateReport, none]
  rfl

end Stack

/-! ### An example -/

/-- A template with a resource, another one that refers to it, and an output that refers to that. -/
def Template.chained : Template where
  resources := .ofList
    [("Base", { type := "T" }), ("Top", { type := "T", properties := some (.object [("On", .ref "Base")]) })]
  outputs := .ofList [("Id", { value := .ref "Top" })]

/-- A stack of which nothing is recorded, with a provider whose answers depend on the request alone. -/
def Stack.answering (answer : Request → Answer) : Stack Unit where
  config := {}
  providers := { default := some fun _ => { answer := fun request world => (answer request, world) } }

/-- The stack whose provider makes every resource. -/
def Stack.obliging : Stack Unit :=
  answering fun request => .ok { resource := { type := request.type, physicalId := some request.logicalId } }

/-- The stack whose provider makes none. -/
def Stack.refusing : Stack Unit := answering fun _ => .error ["refused"]

theorem Stack.preflight_chained (answer : Request → Answer) :
  ∃ graph, (answering answer).preflight .chained .empty = .ok (graph, {})
  := by
  use (Graph.ofNodes ["Base", "Top"]).addEdge "Top" "Base"
  refine preflight_eq_ok.mpr ⟨⟨rfl, ?_⟩, rfl⟩
  apply List.eq_nil_iff_forall_not_mem.mpr
  intro node hn
  have edge {a b : String} (h : ((Graph.ofNodes ["Base", "Top"]).addEdge "Top" "Base").Edge a b) :
      a = "Top" ∧ b = "Base" := by
    have only : (a, b) ∈ [("Top", "Base")] := h
    simpa using only
  obtain ⟨_, first, rest⟩ := Relation.TransGen.head'_iff.mp (Graph.mem_cyclicNodes.mp hn)
  obtain ⟨rfl, rfl⟩ := edge first
  obtain h | ⟨_, next, -⟩ := Relation.ReflTransGen.cases_head rest
  · exact absurd h (by decide)
  · exact absurd (edge next).1 (by decide)

/-- When a provider makes every resource, the update goes well. -/
theorem Stack.exists_completes_obliging :
  ∃ graph middle last, obliging.preflight .chained .empty = .ok (graph, {})
    ∧ (obliging.updateSetting .chained {}).Completes () middle last
    ∧ (obliging.updateReport .chained {} last).error = none
  := by
  obtain ⟨graph, passed⟩ := preflight_chained _
  let setting := obliging.updateSetting .chained {}
  have made : ((setting.requested ()).steps? setting
      [.update "Base", .update "Base", .update "Base", .update "Top", .update "Top", .update "Top"]).any
        fun last => last.isOver && (last.failures (setting.desired.resources.names.map .update)).isEmpty
          && (last.outputFailures setting).isEmpty := by
    decide +kernel
  obtain ⟨middle, scheduled, holds⟩ := (Option.any_eq_true _ _).mp made
  simp only [Bool.and_eq_true, List.isEmpty_iff] at holds
  obtain ⟨⟨ended, updated⟩, evaluated⟩ := holds
  have nothing : setting.removals = [] := Setting.removals_eq_nil rfl
  refine ⟨graph, middle, middle.removing [], passed, ?_, ?_⟩
  · exact Setting.completes_of_nothing (Run.leads_steps? scheduled) ended updated nothing
  · exact error_updateReport_removing nothing updated evaluated

end Reconcile
