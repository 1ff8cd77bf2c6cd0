import Mathlib.Tactic.Common
import Reconcile.Proofs.Graph.Cycles
import Reconcile.Proofs.Graph.Order
import Reconcile.Proofs.Run.Removal
import Reconcile.Proofs.Run.Termination
import Reconcile.Proofs.Stack.Recording

/-!
# Deletion of recorded resources

When the recorded template has a graph without cycles, the removal of recorded resources comes to
its end, and takes them in the order that the graph asks for, whatever the schedule and the
providers.  What could not be removed is reported.
-/

namespace Reconcile

variable {σ : Type}

namespace StackState

variable {state : StackState} {graph : Graph}

theorem graph_eq (built : state.template.graph = .ok graph) :
  state.graph = graph
  := by
  unfold StackState.graph
  rw [built]

theorem nodup_recordedOrder (state : StackState) :
  state.recordedOrder.Nodup
  := by
  unfold recordedOrder
  split
  · next graph built =>
    split
    · next order ordered =>
      obtain ⟨-, -, ⟨⟩⟩ := Except.bind_eq_ok.mp ordered
      apply graph.nodup_finishOrder
    · apply state.resources.nodup_names
  · apply state.resources.nodup_names

theorem nodup_deletionOrder (previous : StackState) (desired : Template) (excluded : List String) :
  (previous.deletionOrder desired excluded).Nodup
  := by
  unfold deletionOrder
  rw [List.nodup_append]
  refine ⟨(List.nodup_reverse.mpr previous.nodup_recordedOrder).filter _,
    previous.resources.nodup_names.filter _, ?_⟩
  rintro id ordered _ rest rfl
  obtain ⟨-, fresh⟩ := Bool.and_eq_true_iff.mp (List.mem_filter.mp rest).2
  simp only [Bool.not_eq_true', List.contains_eq_mem, decide_eq_false_iff_not] at fresh
  exact fresh ordered

/-- All that is recorded has to go when nothing is declared. -/
theorem mem_deletionOrder_empty {id : String} :
  id ∈ state.deletionOrder .empty [] ↔ state.resources.contains id
  := by
  have undeclared : Template.empty.isResource id = false := rfl
  rw [mem_deletionOrder]
  simp [isDoomed, undeclared]

end StackState

/-! ### Removals come to an end -/

namespace Setting

/-- When some recorded resources are removed, the removal of one of them waits for that of another one. -/
structure Awaits (setting : Setting σ) (ids : List String) (id other : String) : Prop where
  policy : setting.deletionPolicy id = .delete
  needed : setting.previous.graph.Edge other id
  listed : other ∈ ids

/-- When some recorded resources are removed, none of them waits for itself, directly or through others. -/
def Disentangled (setting : Setting σ) (ids : List String) : Prop :=
  ∀ id, ¬ Relation.TransGen (setting.Awaits ids) id id

variable {setting : Setting σ} {graph : Graph} {ids : List String}

/-- In a graph without cycles nothing waits for itself. -/
theorem disentangled_of_acyclic (built : setting.previous.graph = graph) (acyclic : graph.cyclicNodes = []) :
  setting.Disentangled ids
  := by
  have above {id other : String} (waits : Relation.TransGen (setting.Awaits ids) id other) :
      graph.below id < graph.below other := by
    have step {id other : String} (waits : setting.Awaits ids id other) : graph.below id < graph.below other :=
      Graph.below_lt acyclic (built ▸ waits.needed)
    induction waits with
    | single waits => exact step waits
    | tail _ waits ih => exact ih.trans (step waits)
  intro id cycle
  exact (above cycle).false

/-- The resources that are waited for are finitely many, so that nothing is waited for down a chain without
end. -/
theorem Disentangled.acc (disentangled : setting.Disentangled ids) (id : String) :
  Acc (fun other id => setting.Awaits ids id other) id
  := by
  let Lower (other id : { id // id ∈ ids }) : Prop := Relation.TransGen (setting.Awaits ids) id.val other.val
  have : IsTrans _ Lower := ⟨fun _ _ _ lower lower' => lower'.trans lower⟩
  have : Std.Irrefl Lower := ⟨fun id => disentangled id.val⟩
  have founded : WellFounded Lower := Finite.wellFounded_of_trans_of_irrefl Lower
  have listed (id : { id // id ∈ ids }) : Acc (fun other id => setting.Awaits ids id other) id.val := by
    induction id using founded.induction with
    | _ id ih => exact .intro _ fun other waits => ih ⟨other, waits.listed⟩ (.single waits)
  exact .intro _ fun other waits => listed ⟨other, waits.listed⟩

/-- The tasks that remove resources wait only for each other. -/
theorem confined_removing (setting : Setting σ) (ids : List String) :
  setting.Confined (ids.map .delete) (fun goal other => setting.Awaits ids other.logicalId goal.logicalId)
    fun run => run.doomed = ids ∧ ∀ id progress, run.progress? (.update id) = some progress → progress.result?.isSome
  := by
  constructor
  · rintro run next goal ⟨doomed, updated⟩ h
    obtain ⟨before, after, _, hb, move, entered, -⟩ := Run.step?_spec h
    refine ⟨entered.doomed_eq.trans doomed, ?_⟩
    intro id progress hp
    cases goal with
    | update other =>
      have finished := updated other before hb
      rw [move.unfinished] at finished
      cases finished
    | delete other =>
      rw [entered.progress?_eq, if_neg nofun] at hp
      apply updated id progress
      simpa using hp
  · rintro run later ⟨doomed, updated⟩
    exact ⟨doomed, updated⟩
  · rintro run goal before on awaited answers ⟨doomed, updated⟩ hb move other ho
    cases goal with
    | update id =>
      have finished := updated id before hb
      rw [move.unfinished] at finished
      cases finished
    | delete id =>
      obtain ⟨policy, rfl⟩ := move.waiting_delete
      obtain ⟨needed, listed⟩ := List.mem_filter.mp ho
      rw [Graph.mem_dependents] at needed
      rw [doomed, List.contains_iff_mem] at listed
      exact ⟨List.mem_map_of_mem listed, policy, needed, listed⟩

/-- Where nothing waits for itself, the tasks that remove resources wait for lower ones. -/
theorem paced_removing (disentangled : setting.Disentangled ids) :
  setting.Paced (ids.map .delete) (fun goal other => setting.Awaits ids other.logicalId goal.logicalId)
    fun run => run.doomed = ids ∧ ∀ id progress, run.progress? (.update id) = some progress → progress.result?.isSome
  := by
  obtain ⟨step, wait, descends⟩ := setting.confined_removing ids
  refine ⟨?_, step, wait, descends⟩
  intro goal _
  apply InvImage.accessible Goal.logicalId (disentangled.acc goal.logicalId)

theorem orderly_removing {first : Run σ} (ended : first.isOver) (ids : List String) (Lower : Goal → Goal → Prop) :
  (first.removing ids).Orderly setting (ids.map .delete) Lower
    ∧ ∀ id progress, (first.removing ids).progress? (.update id) = some progress → progress.result?.isSome
  := by
  -- What is not over has just been asked for.
  have origin {goal : Goal} {progress : Progress} (hp : (first.removing ids).progress? goal = some progress) :
      progress.result?.isSome ∨ goal ∈ ids.map Goal.delete ∧ progress = .ready := by
    rw [Run.progress?_removing] at hp
    cases hq : first.progress? goal with
    | some progress' =>
      rw [hq] at hp
      obtain rfl := Option.some.inj hp
      left
      have finished := Run.isOver_iff.mp ended goal _ hq
      rwa [Run.result?, hq] at finished
    | none =>
      rw [hq, Option.none_or] at hp
      split at hp
      · next asked => exact .inr ⟨asked, (Option.some.inj hp).symm⟩
      · cases hp
  have finished {progress : Progress} (h : progress.result?.isSome) : ∃ result, progress = .finished result := by
    cases progress with
    | finished result => exact ⟨result, rfl⟩
    | _ => cases h
  constructor
  · constructor
    · intro goal hg
      obtain ⟨id, hid, rfl⟩ := List.mem_map.mp hg
      apply first.exists_progress_removing hid
    · intro goal progress hp
      obtain settled | ⟨asked, -⟩ := origin hp
      · exact .inr settled
      · exact .inl asked
    · intro goal progress hp
      obtain settled | ⟨-, rfl⟩ := origin hp
      · obtain ⟨result, rfl⟩ := finished settled
        trivial
      · trivial
    · intro goal progress hp
      obtain settled | ⟨-, rfl⟩ := origin hp
      · obtain ⟨result, rfl⟩ := finished settled
        rintro id ⟨⟩
      · rintro id ⟨⟩
  · intro id progress hp
    obtain settled | ⟨asked, -⟩ := origin hp
    · apply settled
    · simp at asked

/-! ### Removals in order -/

end Setting

/-- Some failures are those of all resources that could not be removed, each listed once. -/
def Run.Lists (run : Run σ) (failures : List (String × StackError)) : Prop :=
  (failures.map (·.1)).Nodup
    ∧ ∀ id error, (id, error) ∈ failures ↔ run.result? (.delete id) = some (.error error)

/-- Where resources are being removed, the failures of the tasks are those of the resources. -/
theorem Run.Dismantling.lists {setting : Setting σ} {run : Run σ} (dismantling : run.Dismantling setting)
    (nodup : run.doomed.Nodup) :
  run.Lists (run.failures (run.doomed.map .delete))
  := by
  constructor
  · rw [Run.map_failures .delete fun _ => rfl]
    apply nodup.filter _
  · intro id error
    rw [Run.mem_failures]
    constructor
    · rintro ⟨goal, hg, rfl, failed⟩
      obtain ⟨id, -, rfl⟩ := List.mem_map.mp hg
      apply failed
    · intro failed
      obtain ⟨listed, -⟩ := dismantling.tasks id _ (Run.result?_eq_some.mp failed)
      exact ⟨.delete id, List.mem_map_of_mem listed, rfl, failed⟩

namespace Setting

variable {setting : Setting σ} {graph : Graph} {ids : List String} {world : σ} {count : Nat} {first : Run σ}

/-- Resources are removed in the order that a graph asks for, from a run on in which nothing had been
removed. -/
structure Dismantles (setting : Setting σ) (graph : Graph) (ids : List String) (first : Run σ) : Prop where
  /-- The removal comes to its end. -/
  concludes : (first.removing ids).Concludes setting (ids.map .delete)
  /-- When a provider is asked to delete a resource, the tasks of its dependents have finished without
  failure. -/
  preceded : ∀ count run next goal call id, Run.Leads setting (first.removing ids) count run →
    run.step? setting goal = some next → next.calls = run.calls ++ [call] → call.request.goal = .delete id →
    ∀ other ∈ ids, graph.Edge other id → run.Clears other
  /-- When one of them has failed, the resource is left alone, and reported with the first of these in
  alphabetical order. -/
  blocked : ∀ count run id other error, Run.Leads setting (first.removing ids) count run →
    id ∈ ids → setting.deletionPolicy id = .delete →
    other ∈ ids → graph.Edge other id → run.result? (.delete other) = some (.error error) →
    (∀ call ∈ run.calls, call.request.goal ≠ .delete id)
      ∧ ∀ result, run.result? (.delete id) = some result →
        ∃ least ∈ ids, graph.Edge least id ∧ (∃ error, run.result? (.delete least) = some (.error error))
          ∧ (∀ later ∈ ids, graph.Edge later id →
              (∃ error, run.result? (.delete later) = some (.error error)) → least ≤ later)
          ∧ result = .error (.dependentNotDeleted id least)
  /-- Along a chain of dependents that are to be deleted, these are deleted before the resource that they
  depend on. -/
  chained : ∀ count run id other, Run.Leads setting (first.removing ids) count run →
    Relation.TransGen (fun id other => graph.Edge other id ∧ other ∈ ids ∧ setting.deletionPolicy other = .delete)
      id other →
    ∀ before exchange after, run.exchanges = before ++ exchange :: after → exchange.Deletes id →
      (∃ earlier ∈ before, earlier.Deletes other) ∧ ∀ later ∈ after, ¬ later.Deletes other
  /-- A resource that is to be retained is left in place without a call. -/
  retained : ∀ count run id, Run.Leads setting (first.removing ids) count run →
    id ∈ ids → setting.deletionPolicy id = .retain →
    (∀ call ∈ run.calls, call.request.goal ≠ .delete id)
      ∧ ∀ result, run.result? (.delete id) = some result → result = .ok .retained
  /-- A resource of which a snapshot is to be made fails without a call. -/
  unsupported : ∀ count run id, Run.Leads setting (first.removing ids) count run →
    id ∈ ids → setting.deletionPolicy id = .snapshot →
    (∀ call ∈ run.calls, call.request.goal ≠ .delete id)
      ∧ ∀ result, run.result? (.delete id) = some result →
        result = .error (.unsupportedDeletionPolicy id .snapshot)
  /-- The resources that failed are reported once each, with their failures. -/
  reported : ∀ count run, Run.Leads setting (first.removing ids) count run →
    run.Lists (run.failures (ids.map .delete))

theorem mem_dependents {run : Run σ} (built : setting.previous.graph = graph) (doomed : run.doomed = ids)
    {id other : String} :
  other ∈ setting.dependents run id ↔ graph.Edge other id ∧ other ∈ ids
  := by
  unfold dependents
  rw [List.mem_filter, built, doomed, Graph.mem_dependents, List.contains_iff_mem]
  rfl

/-- Whatever recorded resources are removed, and whatever the providers do, they are removed in the order
that the graph of the recorded template asks for. -/
theorem dismantles (built : setting.previous.template.acyclicGraph = .ok graph)
    (leads : Run.Leads setting (setting.requested world) count first) (ended : first.isOver)
    (nodup : ids.Nodup) (recorded : ∀ id ∈ ids, setting.previous.resources.contains id) :
  setting.Dismantles graph ids first
  := by
  obtain ⟨built, acyclic⟩ := Template.acyclicGraph_eq_ok.mp built
  have graph_eq := StackState.graph_eq built
  have start {count : Nat} {run : Run σ} (leads' : Run.Leads setting (first.removing ids) count run) :
      run.Sound setting ∧ run.Dismantling setting ∧ run.doomed = ids :=
    leads.removes recorded leads'
  have needed {run : Run σ} (doomed : run.doomed = ids) {id other : String} (listed : other ∈ ids)
      (edge : graph.Edge other id) : other ∈ setting.dependents run id :=
    (mem_dependents graph_eq doomed).mpr ⟨edge, listed⟩
  constructor
  · obtain ⟨orderly, updated⟩ := orderly_removing ended ids _
    exact orderly.concludes (paced_removing (disentangled_of_acyclic graph_eq acyclic)) ⟨first.doomed_removing ids, updated⟩
  · intro count run next goal call id leads h begun served other listed edge
    obtain ⟨sound, dismantling, doomed⟩ := start leads
    apply dismantling.cleared_of_call sound h begun served other (needed doomed listed edge)
  · intro count run id other error leads listed policy listed' edge failed
    obtain ⟨-, dismantling, doomed⟩ := start leads
    refine ⟨dismantling.uncalled_of_failed (needed doomed listed' edge) failed, ?_⟩
    intro result finished
    obtain ⟨least, hl, failed, first, rfl⟩ :=
      dismantling.blocked policy (needed doomed listed' edge) failed finished
    obtain ⟨edge, listed⟩ := (mem_dependents graph_eq doomed).mp hl
    refine ⟨least, listed, edge, failed, ?_, rfl⟩
    intro later listed edge failed
    apply first later (needed doomed listed edge) failed
  · intro count run id other leads chain before exchange after split deletes
    obtain ⟨-, dismantling, doomed⟩ := start leads
    apply dismantling.ordered _ split deletes
    apply Relation.TransGen.mono _ _ _ chain
    rintro id other ⟨edge, listed, policy⟩
    exact ⟨needed doomed listed edge, policy⟩
  · intro count run id leads listed policy
    obtain ⟨-, dismantling, doomed⟩ := start leads
    refine ⟨dismantling.uncalled_of_policy (by simp [policy]), ?_⟩
    intro result finished
    have cases := dismantling.cases_of_result finished
    rwa [policy] at cases
  · intro count run id leads listed policy
    obtain ⟨-, dismantling, doomed⟩ := start leads
    refine ⟨dismantling.uncalled_of_policy (by simp [policy]), ?_⟩
    intro result finished
    have cases := dismantling.cases_of_result finished
    rwa [policy] at cases
  · intro count run leads
    obtain ⟨-, dismantling, rfl⟩ := start leads
    exact dismantling.lists nodup

end Setting

namespace Stack

variable {stack : Stack σ} {template : Template} {inputs : Inputs} {graph : Graph} {world : σ}
  {middle last : Run σ}

/-- A deletion has come to its end, under some schedule. -/
def Deletes (stack : Stack σ) (world : σ) (last : Run σ) : Prop :=
  (∃ count, Run.Leads stack.deleteSetting
      ((stack.deleteSetting.start world).removing (stack.state.deletionOrder .empty [])) count last)
    ∧ last.isOver

/-- Recorded resources are removed in the order of a graph, when a stack is deleted and when it is updated. -/
structure Dismantles (stack : Stack σ) (graph : Graph) : Prop where
  /-- Any of them may have to be removed, after any update of the others. -/
  any : ∀ template inputs world count first ids,
    Run.Leads (stack.updateSetting template inputs) ((stack.updateSetting template inputs).requested world)
      count first → first.isOver →
    ids.Nodup → (∀ id ∈ ids, stack.state.resources.contains id) →
    (stack.updateSetting template inputs).Dismantles graph ids first
  /-- The deletion of the stack is the removal of all of them, and reports what failed. -/
  deletion : ∀ world,
    stack.deleteSetting.Dismantles graph (stack.state.deletionOrder .empty []) (stack.deleteSetting.start world)
      ∧ (∀ id, id ∈ stack.state.deletionOrder .empty [] ↔ stack.state.resources.contains id)
      ∧ stack.Deletes world (stack.deleteRun world)
      ∧ ∀ last, stack.Deletes world last → ∃ failures, last.Lists failures
          ∧ (stack.deleteReport last).error = if failures.isEmpty then none else some (.deleteFailed failures)
  /-- An update that goes so far removes some of them, and reports what failed. -/
  update : ∀ template inputs world middle last,
    (stack.updateSetting template inputs).Completes world middle last →
    middle.failures (template.resources.names.map .update) = [] →
    (stack.updateSetting template inputs).Dismantles graph (stack.updateSetting template inputs).removals middle
      ∧ ∃ failures, last.Lists failures
          ∧ (failures ≠ [] → (stack.updateReport template inputs last).error = some (.updateFailed failures))

/-- An update that goes on to remove resources reports those that failed. -/
theorem updateFailures_of_removes {setting : Setting σ} (completes : setting.Completes world middle last)
    (unfailed : middle.failures (setting.desired.resources.names.map .update) = [])
    (failed : last.failures (setting.removals.map .delete) ≠ []) :
  updateFailures setting last setting.removals = last.failures (setting.removals.map .delete)
  := by
  rw [updateFailures, Run.failures_append, completes.failures_eq, unfailed, List.nil_append]
  split
  · next none => exact absurd none failed
  · rfl

/-- When the recorded template has a graph without cycles, recorded resources are removed in its order. -/
theorem dismantles_of_acyclicGraph (stack : Stack σ) (built : stack.state.template.acyclicGraph = .ok graph) :
  stack.Dismantles graph
  := by
  have recorded (desired : Template) (excluded : List String) :
      ∀ id ∈ stack.state.deletionOrder desired excluded, stack.state.resources.contains id :=
    fun _ => StackState.contains_of_mem_deletionOrder
  constructor
  · intro template inputs world count first ids leads ended nodup recorded
    exact Setting.dismantles built leads ended nodup recorded
  · intro world
    have dismantles : stack.deleteSetting.Dismantles graph (stack.state.deletionOrder .empty [])
        (stack.deleteSetting.start world) :=
      Setting.dismantles built .here rfl (StackState.nodup_deletionOrder _ _ _) (recorded _ _)
    refine ⟨dismantles, ?_, ?_, ?_⟩
    · intro id
      apply StackState.mem_deletionOrder_empty
    · exact ⟨Run.leads_drive _ _ _ _, dismantles.concludes.isOver⟩
    · rintro last ⟨⟨count, leads⟩, -⟩
      exact ⟨_, dismantles.reported count last leads, rfl⟩
  · intro template inputs world middle last completes unfailed
    obtain ⟨count, leads⟩ := completes.updates
    have dismantles := Setting.dismantles built leads completes.updated
      (StackState.nodup_deletionOrder stack.state template _) (recorded template (excluded template inputs))
    obtain ⟨⟨count', leads'⟩, -⟩ := completes.removes unfailed
    refine ⟨dismantles, _, dismantles.reported count' last leads', ?_⟩
    intro failed
    rw [error_updateReport, updateFailures_of_removes completes unfailed failed]
    apply if_neg (mt List.isEmpty_iff.mp failed)

/-- A stack of which a resource is recorded and another one that refers to it. -/
def standing : Stack Unit :=
  { obliging with
    state :=
      { template := .chained
        resources := .ofList [("Base", { type := "T" }), ("Top", { type := "T" })] } }

/-- The resource that refers to the other is deleted first. -/
theorem exists_dismantles_standing :
  ∃ graph last, standing.state.template.acyclicGraph = .ok graph ∧ standing.Dismantles graph
    ∧ standing.Deletes () last
    ∧ last.exchanges.map (·.request.goal) = [.delete "Top", .delete "Base"]
  := by
  obtain ⟨graph, passed⟩ := preflight_chained fun _ => .error []
  have built := Template.acyclicGraph_eq_ok.mpr (preflight_eq_ok.mp passed).1
  let setting := standing.deleteSetting
  have order : standing.state.deletionOrder .empty [] = ["Top", "Base"] := by cbv
  have deleted : (((setting.start ()).removing ["Top", "Base"]).steps? setting
      [.delete "Base", .delete "Top", .delete "Top", .delete "Top", .delete "Base", .delete "Base"]).any
        fun last => last.isOver
          && last.exchanges.map (·.request.goal) = [Goal.delete "Top", .delete "Base"] := by
    decide +kernel
  obtain ⟨last, scheduled, holds⟩ := (Option.any_eq_true _ _).mp deleted
  simp only [Bool.and_eq_true, decide_eq_true_eq] at holds
  obtain ⟨ended, exchanged⟩ := holds
  have deletes : standing.Deletes () last := by
    rw [Deletes, order]
    exact ⟨Run.leads_steps? scheduled, ended⟩
  exact ⟨graph, last, built, dismantles_of_acyclicGraph standing built, deletes, exchanged⟩

end Stack

end Reconcile
