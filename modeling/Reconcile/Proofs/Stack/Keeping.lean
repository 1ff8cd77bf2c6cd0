import Mathlib.Tactic.Common
import Reconcile.Proofs.Run.Transcript
import Reconcile.Proofs.Stack.History

/-!
# Nothing is lost from the record

What is recorded of a resource after an update is what a provider returned for it, what was recorded
before with the properties that were found to be the same, or just what was recorded before, unless
the resource was deleted or retained.  This holds however far the update has come and whatever failed,
and for a deletion, too.  In a history from the empty stack every recorded resource has a definition.
-/

namespace Reconcile

variable {σ : Type} {id : String}

/-- A request asks for a resource with some properties. -/
inductive Request.Applies (id : String) (properties : Json) : Request → Prop where
  | create {type : String} : Applies id properties (.create id type properties)
  | update {type : String} {previous : PhysicalResource} : Applies id properties (.update id type properties previous)

theorem Request.exists_applies_iff {request : Request} :
  (∃ properties, request.Applies id properties) ↔ request.goal = .update id
  := by
  constructor
  · rintro ⟨properties, applies⟩
    cases applies with
    | _ => rfl
  · intro served
    cases request with
    | create => cases served; exact ⟨_, .create⟩
    | update => cases served; exact ⟨_, .update⟩
    | delete => cases served

namespace Run

variable (run : Run σ) (id : String)

/-- A provider has made or changed a resource. -/
def Makes : Prop := ∃ request reply properties, request.Applies id properties ∧ ⟨request, .ok reply⟩ ∈ run.exchanges

/-- A resource was skipped. -/
def Skips : Prop := ∃ physical, run.result? (.update id) = some (.ok (.applied physical .skip))

/-- A resource was deleted by a provider, or is retained. -/
def Dismisses : Prop :=
  (∃ exchange ∈ run.exchanges, exchange.Deletes id) ∨ run.result? (.delete id) = some (.ok .retained)

end Run

/-- What is recorded of a resource after a run is what became of it. -/
structure Setting.Records (setting : Setting σ) (run : Run σ) (id : String) (entry : Option PhysicalResource) :
    Prop where
  /-- What a provider returned is recorded with the properties that it was asked for. -/
  made : ∀ request reply properties, request.Applies id properties → ⟨request, .ok reply⟩ ∈ run.exchanges →
    entry = some (setting.applied id properties reply.resource)
  /-- What was skipped stays recorded, with the properties that do not differ from the recorded ones. -/
  skipped : run.Skips id → ∃ resource previous properties decision,
    setting.desired.resources.get? id = some resource ∧ setting.previous.resources.get? id = some previous
      ∧ run.Prepared setting id resource properties decision ∧ previous.inputProperties.diff properties = []
      ∧ entry = some (setting.applied id properties previous)
  kept : ∀ previous, setting.previous.resources.get? id = some previous →
    ¬ run.Makes id → ¬ run.Skips id → ¬ run.Dismisses id → entry = some previous
  absent : ¬ run.Makes id → ¬ run.Skips id → setting.previous.resources.get? id = none ∨ run.Dismisses id →
    entry = none
  /-- What is deleted or retained is not applied. -/
  apart : run.Dismisses id → ¬ run.Makes id ∧ ¬ run.Skips id

namespace Setting.Records

variable {setting : Setting σ} {run : Run σ} {entry : Option PhysicalResource} (records : setting.Records run id entry)

include records

/-- The entry of what is deleted or retained is gone. -/
theorem absent_of_dismisses (dismisses : run.Dismisses id) :
  entry = none
  := by
  obtain ⟨unmade, unskipped⟩ := records.apart dismisses
  apply records.absent unmade unskipped (.inr dismisses)

/-- A resource is made, changed, skipped, deleted or retained, or else its entry is what it was. -/
theorem cases :
  run.Makes id ∨ run.Skips id ∨ run.Dismisses id ∨ entry = setting.previous.resources.get? id
  := by
  by_contra! idle
  obtain ⟨unmade, unskipped, undismissed, changed⟩ := idle
  apply changed
  cases recorded : setting.previous.resources.get? id with
  | none => apply records.absent unmade unskipped (.inl recorded)
  | some previous => apply records.kept previous recorded unmade unskipped undismissed

end Setting.Records

/-! ### Recorded resources -/

/-- An entry of the recorded state is what the run left, or what was recorded before and not removed. -/
theorem Run.Sound.get?_recordedState {setting : Setting σ} {run : Run σ} (sound : run.Sound setting) :
  (run.recordedState setting).resources.get? id = run.recordedResource? setting id
  := by
  apply Option.ext
  intro physical
  rw [Run.get?_recordedState]
  by_cases declared : setting.desired.isResource id
  · simp [declared]
  · have incomplete : run.completed? id = none := by
      apply Option.eq_none_iff_forall_ne_some.mpr
      intro physical completed
      obtain ⟨operation, finished⟩ := completed?_eq_some.mp completed
      obtain ⟨resource, found, -⟩ := (sound.accounted finished).cases_of_ok
      exact declared (Option.isSome_iff_exists.mpr ⟨resource, found⟩)
    unfold recordedResource?
    rw [incomplete]
    cases run.removal? id with
    | none => simp [declared]
    | some outcome => simp [declared]

/-- What was asked for and answered is what has been applied. -/
theorem Run.Credits.completed? {setting : Setting σ} {run : Run σ} (credits : run.Credits setting) {request : Request}
    {reply : Reply} {properties : Json} (applies : request.Applies id properties)
    (hm : ⟨request, .ok reply⟩ ∈ run.exchanges) :
  run.completed? id = some (setting.applied id properties reply.resource)
  := by
  have finished := credits request reply hm
  cases applies with
  | _ => exact completed?_eq_some.mpr ⟨_, finished⟩

namespace Setting

variable {setting : Setting σ} {world : σ} {middle last run : Run σ} {physical : PhysicalResource}

/-- The answers that a run got are those that made its world, its tasks take credit for them, and what it
deletes is what was recorded. -/
theorem Reaches.attested (reaches : setting.Reaches world run) :
  run.Traces setting world ∧ run.Credits setting ∧ run.Addressed setting
  := by
  have all : run.Sound setting ∧ run.Traces setting world ∧ run.Credits setting ∧ run.Addressed setting := by
    apply reaches.invariant fun run =>
      run.Sound setting ∧ run.Traces setting world ∧ run.Credits setting ∧ run.Addressed setting
    · exact ⟨setting.sound_requested world, Run.traces_requested setting world, Run.credits_requested setting world,
        Run.addressed_requested setting world⟩
    · rintro run next goal ⟨sound, traces, credits, addressed⟩ h
      exact ⟨(sound.step h).1, traces.step h, credits.step sound h, addressed.step sound h⟩
    · rintro run later ⟨sound, traces, credits, addressed⟩
      exact ⟨(sound.wait later).1, traces, credits.wait later, addressed.wait later⟩
    · rintro run ⟨sound, traces, credits, addressed⟩
      exact ⟨(sound.removing _).1, traces.removing _, credits.removing _, addressed.removing _⟩
  apply all.2

/-- What has been applied of a declared resource was made or changed by a provider, or it was skipped. -/
theorem Reaches.made_or_skipped (reaches : setting.Reaches world run)
    (completed : run.completed? id = some physical) :
  ∃ resource properties decision, setting.desired.resources.get? id = some resource
    ∧ run.Prepared setting id resource properties decision
    ∧ ((decision.operation ≠ .skip ∧ ∃ reply, ⟨setting.requestFor id resource properties, .ok reply⟩ ∈ run.exchanges
          ∧ physical = setting.applied id properties reply.resource)
      ∨ run.Skips id ∧ ∃ previous, setting.previous.resources.get? id = some previous
          ∧ previous.inputProperties.diff properties = [] ∧ physical = setting.applied id properties previous)
  := by
  obtain ⟨operation, finished⟩ := Run.completed?_eq_some.mp completed
  obtain ⟨resource, declared, justified⟩ := (reaches.sound.accounted finished).declared nofun nofun
  cases justified with
  | skipped prepared skips recorded =>
    refine ⟨resource, _, _, declared, prepared, .inr ⟨⟨_, finished⟩, _, recorded, ?_, rfl⟩⟩
    obtain ⟨previous, recorded', same⟩ := prepared.skips_iff.mp skips
    cases recorded.symm.trans recorded'
    exact same
  | @succeeded properties decision provider reply refusals prepared calls serving refused answered allowed =>
    refine ⟨resource, _, _, declared, prepared, .inl ⟨calls, reply, ?_, rfl⟩⟩
    apply reaches.faithful.exchange_of_answer reaches.sound declared prepared (by simp [answered])

namespace Completes

variable (completes : setting.Completes world middle last)

include completes

theorem removal?_eq_none_iff :
  last.removal? id = none ↔ ¬ last.Dismisses id
  := by
  unfold Run.Dismisses Run.removal?
  rw [← completes.deleted_iff]
  split
  · next deleted => simp [deleted]
  · next retained => simp [retained]
  · next undeleted unretained => exact ⟨fun _ => not_or_intro undeleted unretained, fun _ => rfl⟩

/-- What is dismissed is not applied, since it is not declared or excluded. -/
theorem completed?_of_dismisses (dismisses : last.Dismisses id) :
  last.completed? id = none
  := by
  have doomed : setting.previous.isDoomed setting.desired (Stack.excluded setting.desired setting.inputs) id := by
    rw [Run.Dismisses, ← completes.deleted_iff] at dismisses
    rw [← StackState.mem_deletionOrder]
    obtain deleted | retained := dismisses
    · apply completes.mem_removals_of_result deleted
    · apply completes.mem_removals_of_result retained
  apply Option.eq_none_iff_forall_ne_some.mpr
  intro physical completed
  obtain ⟨resource, properties, decision, declared, prepared, -⟩ := completes.reaches.2.made_or_skipped completed
  obtain ⟨-, undeclared | excluded⟩ := Bool.and_eq_true_iff.mp doomed |>.imp_right (Bool.or_eq_true _ _).mp
  · have isResource : setting.desired.isResource id := Option.isSome_iff_exists.mpr ⟨resource, declared⟩
    simp [isResource] at undeclared
  · obtain ⟨resource', declared', inactive⟩ := Stack.mem_excluded.mp (List.contains_iff_mem.mp excluded)
    cases declared.symm.trans declared'
    cases prepared.active.symm.trans inactive

/-- A resource has been applied just when it was made, changed or skipped. -/
theorem completed?_eq_none_iff :
  last.completed? id = none ↔ ¬ last.Makes id ∧ ¬ last.Skips id
  := by
  have credits := completes.reaches.2.attested.2.1
  constructor
  · intro incomplete
    constructor
    · rintro ⟨request, reply, properties, applies, hm⟩
      cases incomplete.symm.trans (credits.completed? applies hm)
    · rintro ⟨physical, finished⟩
      cases incomplete.symm.trans (Run.completed?_eq_some.mpr ⟨_, finished⟩)
  · rintro ⟨unmade, unskipped⟩
    apply Option.eq_none_iff_forall_ne_some.mpr
    intro physical completed
    obtain ⟨resource, properties, decision, -, -, ⟨-, reply, hm, -⟩ | ⟨skips, -⟩⟩ :=
      completes.reaches.2.made_or_skipped completed
    · obtain ⟨properties', applies⟩ := Request.exists_applies_iff.mpr (setting.goal_requestFor id resource properties)
      exact unmade ⟨_, reply, properties', applies, hm⟩
    · apply unskipped skips

/-- What was recorded, unless it was removed or replaced, and what became of the others. -/
theorem records (id : String) :
  setting.Records last id (last.recordedResource? setting id)
  := by
  have reaches := completes.reaches.2
  have credits := reaches.attested.2.1
  constructor
  · intro request reply properties applies hm
    rw [Run.recordedResource?, credits.completed? applies hm]
  · rintro ⟨physical, finished⟩
    have completed : last.completed? id = some physical := Run.completed?_eq_some.mpr ⟨_, finished⟩
    obtain ⟨resource, properties, decision, declared, prepared, ⟨calls, reply, hm, -⟩ | ⟨-, previous, recorded, same, he⟩⟩ :=
      reaches.made_or_skipped completed
    · -- What a provider has been asked for was not skipped.
      have credit := credits _ reply hm
      obtain ⟨resolution, -, decides⟩ := prepared.resolved
      rw [setting.goal_requestFor, finished, Run.outcome_requestFor decides calls] at credit
      obtain ⟨-, skips⟩ := Outcome.applied.inj (Except.ok.inj (Option.some.inj credit))
      exact absurd skips.symm calls
    · refine ⟨resource, previous, properties, decision, declared, recorded, prepared, same, ?_⟩
      rw [Run.recordedResource?, completed, he]
  · intro previous recorded unmade unskipped kept
    rw [Run.recordedResource?, completes.completed?_eq_none_iff.mpr ⟨unmade, unskipped⟩,
      completes.removal?_eq_none_iff.mpr kept]
    exact recorded
  · intro unmade unskipped gone
    rw [Run.recordedResource?, completes.completed?_eq_none_iff.mpr ⟨unmade, unskipped⟩]
    dsimp only
    split
    · rfl
    · next kept =>
      apply gone.resolve_right
      rw [← completes.removal?_eq_none_iff]
      simpa using kept
  · intro dismisses
    apply completes.completed?_eq_none_iff.mp (completes.completed?_of_dismisses dismisses)

end Completes

end Setting

/-! ### Stacks -/

/-- Every recorded resource has a definition. -/
def StackState.Defines (state : StackState) : Prop :=
  ∀ id, state.resources.contains id → state.template.isResource id

/-- When every recorded resource had a definition before an update, so it has afterwards. -/
theorem StackState.Defines.recordedState {setting : Setting σ} {run : Run σ} (defines : setting.previous.Defines) :
  (run.recordedState setting).Defines
  := by
  intro id recorded
  obtain ⟨physical, recorded⟩ := Option.isSome_iff_exists.mp recorded
  obtain ⟨declared, -⟩ | ⟨kept, undeclared, unremoved⟩ := Run.get?_recordedState.mp recorded
  · apply Run.isResource_recordedTemplate.mpr (.inl declared)
  · have defined := defines id (Option.isSome_iff_exists.mpr ⟨physical, kept⟩)
    obtain ⟨definition, defined⟩ := Option.isSome_iff_exists.mp defined
    have left : (id, physical) ∈ run.leftovers setting := Run.mem_leftovers.mpr ⟨kept, undeclared, unremoved⟩
    exact Run.isResource_recordedTemplate.mpr (.inr ⟨definition, ⟨physical, left⟩, defined⟩)

namespace Stack

variable {stack : Stack σ} {world : σ} {last : Run σ}

/-- The deletion of a stack is an update to a template in which nothing is declared. -/
theorem Deletes.completes (deletes : stack.Deletes world last) :
  stack.deleteSetting.Completes world (stack.deleteSetting.start world) last
  := by
  refine ⟨⟨0, .here⟩, rfl, fun _ => deletes, ?_⟩
  intro failed
  exact absurd rfl failed

theorem Deletes.completed? (deletes : stack.Deletes world last) (id : String) :
  last.completed? id = none
  := by
  apply Option.eq_none_iff_forall_ne_some.mpr
  intro physical completed
  obtain ⟨resource, _, _, declared, -⟩ := deletes.completes.reaches.2.made_or_skipped completed
  cases declared

/-- After the deletion of a stack the resources are recorded that it did not remove. -/
theorem Deletes.get?_state (deletes : stack.Deletes world last) (id : String) :
  (stack.deleteReport last).stack.state.resources.get? id = last.recordedResource? stack.deleteSetting id
  := by
  rw [Run.recordedResource?, deletes.completed?]
  unfold deleteReport
  dsimp only
  split
  · next unfailed =>
    have succeeds : stack.deleteSetting.Succeeds world (stack.deleteSetting.start world) last :=
      ⟨deletes.completes, updateFailures_eq_nil.mpr ⟨rfl, List.isEmpty_iff.mp unfailed, rfl⟩⟩
    split
    · rfl
    · next kept =>
      -- What is recorded has to go, and so it would have been removed.
      by_contra recorded
      apply kept
      apply succeeds.removed
      apply StackState.mem_deletionOrder.mp
      apply StackState.mem_deletionOrder_empty.mpr
      apply Option.isSome_iff_ne_none.mpr (Ne.symm recorded)
  · apply Option.ext
    intro physical
    rw [Table.get?_filter]
    cases last.removal? id with
    | none => simp; rfl
    | some outcome => simp

/-- What a deletion leaves of a resource, and what has become of it. -/
theorem Deletes.records (deletes : stack.Deletes world last) (id : String) :
  stack.deleteSetting.Records last id ((stack.deleteReport last).stack.state.resources.get? id)
  := by
  rw [deletes.get?_state]
  apply deletes.completes.records

theorem defines_deleteReport (run : Run σ) (defines : stack.state.Defines) :
  (stack.deleteReport run).stack.state.Defines
  := by
  unfold deleteReport
  dsimp only
  split
  · nofun
  · intro id recorded
    obtain ⟨physical, recorded⟩ := Option.isSome_iff_exists.mp recorded
    apply defines
    exact Option.isSome_iff_exists.mpr ⟨physical, ((Table.get?_filter _ _).mp recorded).1⟩

/-- In a history from the empty stack every recorded resource has a definition. -/
theorem History.defines {updates : List (Setting σ × Run σ)} {visited : List (Stack σ)}
    (history : History updates visited stack) :
  ∀ stack ∈ visited, stack.state.Defines
  := by
  induction history with
  | start empty =>
    simp only [List.mem_singleton, forall_eq, empty]
    nofun
  | refused before rejected ih =>
    simp only [List.forall_mem_append, List.mem_singleton, forall_eq]
    exact ⟨ih, ih _ before.mem_visited⟩
  | updated before passed completes ih =>
    simp only [List.forall_mem_append, List.mem_singleton, forall_eq]
    use ih
    apply StackState.Defines.recordedState
    apply ih _ before.mem_visited
  | deleted before deletes ih =>
    simp only [List.forall_mem_append, List.mem_singleton, forall_eq]
    use ih
    apply defines_deleteReport _ (ih _ before.mem_visited)

/-- Whatever the schedule and the providers, and however it ends, an update records of every resource what became
of it, and a deletion keeps of the recorded resources, as they are, precisely those that were neither deleted nor
retained.  In a history from the empty stack every recorded resource has a definition in the recorded template. -/
theorem keeps_records :
  (∀ (stack : Stack σ) (template : Template) (inputs : Inputs) (world : σ) (middle last : Run σ),
    (stack.updateSetting template inputs).Completes world middle last →
    ∀ id, (stack.updateSetting template inputs).Records last id
      ((stack.updateReport template inputs last).stack.state.resources.get? id))
    ∧ (∀ (stack : Stack σ) (world : σ) (last : Run σ), stack.Deletes world last →
        ∀ id physical, (stack.deleteReport last).stack.state.resources.get? id = some physical
          ↔ stack.state.resources.get? id = some physical ∧ ¬ last.Dismisses id)
    ∧ ∀ (updates : List (Setting σ × Run σ)) (visited : List (Stack σ)) (stack : Stack σ),
        History updates visited stack → ∀ stack ∈ visited, ∀ id,
          stack.state.resources.contains id → stack.state.template.isResource id
  := by
  refine ⟨?_, ?_, fun updates visited stack history => history.defines⟩
  · intro stack template inputs world middle last completes id
    have entry : (stack.updateReport template inputs last).stack.state.resources.get? id
        = last.recordedResource? (stack.updateSetting template inputs) id := completes.sound.2.1.get?_recordedState
    rw [entry]
    apply completes.records
  · intro stack world last deletes id physical
    rw [deletes.get?_state, Run.recordedResource?, deletes.completed?, ← deletes.completes.removal?_eq_none_iff]
    cases last.removal? id with
    | none => simp; rfl
    | some outcome => simp

/-- What a provider made in an update is recorded with its definition, and a deletion removes what was recorded. -/
theorem exists_keeps_records :
  ∃ graph middle last removed, obliging.preflight .chained .empty = .ok (graph, {})
    ∧ (obliging.updateSetting .chained {}).Completes () middle last
    ∧ (∀ id, (obliging.updateSetting .chained {}).Records last id
        ((obliging.updateReport .chained {} last).stack.state.resources.get? id))
    ∧ (∀ id, (obliging.updateReport .chained {} last).stack.state.resources.contains id →
        (obliging.updateReport .chained {} last).stack.state.template.isResource id)
    ∧ standing.Deletes () removed
    ∧ ∀ id physical, (standing.deleteReport removed).stack.state.resources.get? id = some physical
        ↔ standing.state.resources.get? id = some physical ∧ ¬ removed.Dismisses id
  := by
  obtain ⟨graph, middle, last, passed, completes, -⟩ := exists_completes_obliging
  have built : standing.state.template.acyclicGraph = .ok graph :=
    Template.acyclicGraph_eq_ok.mpr (preflight_eq_ok.mp passed).1
  have dismantles : standing.deleteSetting.Dismantles graph (standing.state.deletionOrder .empty [])
      (standing.deleteSetting.start ()) :=
    Setting.dismantles built .here rfl (StackState.nodup_deletionOrder _ _ _)
      fun _ => StackState.contains_of_mem_deletionOrder
  have deletes : standing.Deletes () (standing.deleteRun ()) :=
    ⟨Run.leads_drive _ _ _ _, dismantles.concludes.isOver⟩
  obtain ⟨updates, deletions, histories⟩ := @keeps_records Unit
  have history := History.updated (.start rfl) passed completes
  exact ⟨graph, middle, last, _, passed, completes, updates _ _ _ _ _ _ completes,
    histories _ _ _ history _ history.mem_visited, deletes, deletions _ _ _ deletes⟩

end Stack

end Reconcile
