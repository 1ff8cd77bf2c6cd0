import Mathlib.Tactic.Common
import Reconcile.Proofs.Evaluation.Relisting
import Reconcile.Proofs.Stack.Endings

/-!
# Updates concur

The order in which a template lists its resources, and the schedule of an update, decide what is
known when a resource is first looked at, which resources wait for which, and with which errors
they fail.  They do not decide who succeeds.  When providers are regular, what has succeeded in one
update succeeds in the other in the same way: by induction on the schedule of the first one, all
that a resource is prepared with there has become of it in the second one too, so that it is
prepared in the same way, asks for the same, and is answered the same.
-/

namespace Reconcile

variable {σ : Type}

/-- An update is another one, but for the order in which the template lists the resources. -/
structure Setting.Relists (setting other : Setting σ) : Prop where
  rest : other = { setting with desired := other.desired }
  desired : setting.desired.Relists other.desired

namespace Setting.Relists

variable {setting other : Setting σ} (relists : setting.Relists other) {run next : Run σ} {id : String}
  {resource : Resource} {properties : Json} {decision : Decision}

include relists

theorem symm :
  other.Relists setting
  := by
  refine ⟨?_, relists.desired.symm⟩
  rw [relists.rest]

theorem previous :
  other.previous = setting.previous
  := by rw [relists.rest]

theorem inputs :
  other.inputs = setting.inputs
  := by rw [relists.rest]

theorem providers :
  other.providers = setting.providers
  := by rw [relists.rest]

theorem requestFor :
  other.requestFor = setting.requestFor
  := by
  funext id resource properties
  unfold Setting.requestFor
  rw [relists.previous]

theorem applied :
  other.applied = setting.applied
  := by
  funext id properties resource
  unfold Setting.applied
  rw [relists.desired.get?_eq]

theorem outcome :
  other.outcome = setting.outcome
  := by
  funext reply request
  unfold Setting.outcome
  rw [relists.applied]

theorem capabilities (run : Run σ) :
  run.capabilities other = run.capabilities setting
  := by
  have config : other.config = setting.config := by rw [relists.rest]
  unfold Run.capabilities Run.view
  rw [relists.inputs, relists.providers, config, relists.desired.isExcluded]

/-- What a run is prepared for does not depend on the order. -/
theorem prepared (prepared : run.Prepared setting id resource properties decision) :
  run.Prepared other id resource properties decision
  := by
  obtain ⟨active, preceded, resolution, evaluated, realized, decided⟩ := prepared
  refine ⟨?_, preceded, resolution, ?_, realized, ?_⟩
  · rw [relists.inputs]
    exact active
  · rw [relists.desired.alike.evaluate, relists.capabilities]
    exact evaluated
  · rw [relists.previous]
    exact decided

theorem ending {request : Request} {answers : List Answer} {result : Except StackError Outcome}
    (ending : Ending setting request answers result) :
  Ending other request answers result
  := by
  have tries (provider : Provider σ) (kind : CallKind) : other.tries provider kind = setting.tries provider kind := by
    rw [relists.rest]
    rfl
  cases ending with
  | unserved unserved => exact .unserved (relists.providers ▸ unserved)
  | succeeded serving refused answered allowed =>
    rw [← relists.outcome]
    rw [← relists.providers] at serving
    rw [← tries] at allowed
    exact .succeeded serving refused answered allowed
  | exhausted serving refused spent =>
    rw [← relists.providers] at serving
    rw [← tries] at spent
    exact .exhausted serving refused spent

theorem removals :
  other.removals = setting.removals
  := by
  unfold Setting.removals
  rw [relists.previous, relists.inputs]
  apply StackState.deletionOrder_congr _ relists.desired.alike.isResource
  intro id
  simp only [Stack.mem_excluded, relists.desired.get?_eq]

theorem deletionPolicy :
  other.deletionPolicy = setting.deletionPolicy
  := by
  funext id
  unfold Setting.deletionPolicy
  rw [relists.previous]

theorem dependents (doomed : next.doomed = run.doomed) (id : String) :
  other.dependents next id = setting.dependents run id
  := by
  unfold Setting.dependents
  rw [relists.previous, doomed]

/-! ### What succeeds -/

variable {world world' : σ} {middle middle' last last' : Run σ} {reply : Request → Nat → Answer}
  {outcome : Outcome}

/-- When all that has succeeded in one run succeeds in another, what is prepared in the one is prepared in the
other. -/
theorem prepared_of_succeeds (sound : next.Sound other)
    (succeeds : ∀ id outcome, run.result? (.update id) = some (.ok outcome) →
      next.result? (.update id) = some (.ok outcome))
    (prepared : run.Prepared setting id resource properties decision) :
  next.Prepared other id resource properties decision
  := by
  have knows : (run.capabilities setting).Extends (next.capabilities setting) := by
    apply Run.extends_of_completed
    · intro id physical completed
      obtain ⟨operation, finished⟩ := Run.completed?_eq_some.mp completed
      exact Run.completed?_eq_some.mpr ⟨operation, succeeds _ _ finished⟩
    · intro id excluded
      rw [← relists.desired.isExcluded, ← relists.inputs] at excluded
      exact sound.since_self.heeds id excluded
  obtain ⟨active, preceded, resolution, evaluated, decides⟩ := prepared
  apply relists.prepared
  refine ⟨active, ?_, resolution, ?_, decides⟩
  · intro id needed
    obtain ⟨outcome, finished⟩ := preceded id needed
    exact ⟨outcome, succeeds _ _ finished⟩
  · apply setting.desired.evaluate_of_extends knows evaluated
    exact (Resolution.realize_eq_ok.mp decides.realized).2

/-- A resource that succeeds in one run, and is prepared in the same way and answered by the same replies in another
one, ends there as it does here. -/
theorem eq_ok_of_justified {answers answers' : List Answer} {result : Except StackError Outcome}
    (carried : ∀ properties decision, run.Prepared setting id resource properties decision →
      next.Prepared other id resource properties decision)
    (justified : run.Justified setting answers id resource (.finished (.ok outcome)))
    (follows : ∀ properties decision, run.Prepared setting id resource properties decision →
      Follows (reply (setting.requestFor id resource properties)) answers)
    (justified' : next.Justified other answers' id resource (.finished result))
    (follows' : ∀ properties decision, next.Prepared other id resource properties decision →
      Follows (reply (other.requestFor id resource properties)) answers') :
  result = .ok outcome
  := by
  cases justified with
  | skipped prepared skips recorded =>
    obtain ⟨previous, recorded', rfl⟩ := justified'.skips (carried _ _ prepared) skips
    rw [relists.previous, recorded] at recorded'
    obtain rfl := Option.some.inj recorded'
    rw [relists.applied]
  | succeeded prepared calls serving refused answered allowed =>
    have ending := Run.Justified.ending (.succeeded prepared calls serving refused answered allowed) prepared calls
    have ending' := relists.symm.ending (justified'.ending (carried _ _ prepared) calls)
    have replied' := follows' _ _ (carried _ _ prepared)
    rw [relists.requestFor] at ending' replied'
    exact ending.unique (follows _ _ prepared) ending' replied'
  | excluded inactive =>
    rw [← relists.inputs] at inactive
    exact justified'.eq_excluded inactive

section

variable (regular : setting.providers.Regular world reply) (regular' : setting.providers.Regular world' reply)
  (completes' : other.Completes world' middle' last')

include regular regular' completes'

/-- A declared resource that one update has brought up to date comes to the same in the other. -/
theorem succeeds_update {count : Nat} (leads : Run.Leads setting (setting.requested world) count run)
    (finished : run.result? (.update id) = some (.ok outcome)) :
  last'.result? (.update id) = some (.ok outcome)
  := by
  induction leads generalizing id outcome with
  | here =>
    rw [result?_requested] at finished
    cases finished
  | @step _ run next goal leads h ih =>
    obtain ⟨before, after, new, hb, move, entered, exchanges⟩ := Run.step?_spec h
    by_cases hg : Goal.update id = goal
    · subst hg
      rw [Run.result?_eq_some, entered.progress?_eq, if_pos rfl] at finished
      obtain rfl := Option.some.inj finished
      have reaches : setting.Reaches world run := .updating leads
      have reaches' := completes'.reaches.2
      have answers := Run.answers_eq exchanges (reaches.sound.own_of_move hb move) (.update id)
      rw [if_pos rfl] at answers
      -- The resource is declared in both updates, and the other one has dealt with it.
      have accounted := reaches.sound.accounted_of_move hb move
      rw [← answers] at accounted
      obtain ⟨resource, declared, justified⟩ := accounted.declared nofun nofun
      have declared' : other.desired.resources.get? id = some resource := by rw [relists.desired.get?_eq, declared]
      obtain ⟨result, -, finished'⟩ := completes'.exists_result declared'
      have justified' := (reaches'.sound.accounted finished').justified declared'
      rw [finished']
      congr 1
      -- What it was prepared with has succeeded before.
      have carried (properties : Json) (decision : Decision)
          (prepared : run.Prepared setting id resource properties decision) :=
        relists.prepared_of_succeeds reaches'.sound (fun _ _ => ih) prepared
      have follows (properties : Json) (decision : Decision)
          (prepared : run.Prepared setting id resource properties decision) :=
        (Setting.Reaches.updating (leads.step h)).follows_update regular declared
          (prepared.since (reaches.sound.step h).2)
      have follows' (properties : Json) (decision : Decision)
          (prepared' : last'.Prepared other id resource properties decision) :=
        reaches'.follows_update (relists.providers ▸ regular') declared' prepared'
      exact relists.eq_ok_of_justified carried justified follows justified' follows'
    · rw [(entered.kept hg).result?] at finished
      exact ih finished
  | wait _ _ ih =>
    rw [Run.result?_wait] at finished
    exact ih finished

section

variable (completes : setting.Completes world middle last)
  (unfailed : middle.failures (setting.desired.resources.names.map .update) = [])
  (unfailed' : middle'.failures (other.desired.resources.names.map .update) = []) {count : Nat}
  (leads : Run.Leads setting (middle.removing setting.removals) count run)

include completes unfailed unfailed' leads

/-- What one update deletes the other one deletes too, once its dependents are out of the way there. -/
theorem deletes (deleted : run.result? (.delete id) = some (.ok .deleted))
    (cleared' : ∀ needed ∈ setting.dependents run id, last'.Clears needed) :
  last'.result? (.delete id) = some (.ok .deleted)
  := by
  obtain ⟨_, updates⟩ := completes.updates
  obtain ⟨_, updates'⟩ := completes'.updates
  obtain ⟨⟨_, removes'⟩, -⟩ := completes'.removes unfailed'
  obtain ⟨-, dismantling, doomed⟩ := updates.removes setting.contains_of_mem_removals leads
  have doomed' : last'.doomed = run.doomed := by
    rw [(updates'.removes other.contains_of_mem_removals removes').2.2, relists.removals, doomed]
  obtain ⟨listed, removing⟩ := dismantling.tasks id _ (Run.result?_eq_some.mp deleted)
  obtain ⟨previous, recorded⟩ := Option.isSome_iff_exists.mp (dismantling.recorded id listed)
  have recorded' : other.previous.resources.get? id = some previous := by rw [relists.previous, recorded]
  -- The other update deals with the same recorded resources.
  rw [doomed, ← relists.removals] at listed
  obtain ⟨result, finished'⟩ := completes'.exists_removal unfailed' listed
  rw [finished']
  cases removing with
  | deleted policy cleared =>
    have policy' : other.deletionPolicy id = .delete := by rw [relists.deletionPolicy, policy]
    have ending := ending_of_removing updates completes.updated unfailed leads recorded policy deleted
      fun needed hn error failed => by
        obtain ⟨outcome, gone⟩ := cleared needed hn
        cases gone.symm.trans failed
    have ending' := ending_of_removing updates' completes'.updated unfailed' removes' recorded' policy' finished'
      fun needed hn error failed => by
        rw [relists.dependents doomed'] at hn
        obtain ⟨outcome, gone⟩ := cleared' needed hn
        cases gone.symm.trans failed
    have reaches : setting.Reaches world run := .removing updates completes.updated unfailed leads
    congr 1
    apply ending.unique (reaches.follows_delete regular recorded) (relists.symm.ending ending')
    exact completes'.reaches.2.follows_delete (relists.providers ▸ regular') recorded'

/-- A recorded resource that one update has deleted, or left in place, comes to the same in the other. -/
theorem succeeds_delete (finished : run.result? (.delete id) = some (.ok outcome)) :
  last'.result? (.delete id) = some (.ok outcome)
  := by
  obtain ⟨_, updates⟩ := completes.updates
  obtain ⟨_, updates'⟩ := completes'.updates
  obtain ⟨⟨_, removes'⟩, -⟩ := completes'.removes unfailed'
  obtain ⟨-, dismantling', -⟩ := updates'.removes other.contains_of_mem_removals removes'
  induction leads generalizing id outcome with
  | here =>
    have absent := updates.no_deletion id
    rw [(middle.kept_removing setting.removals (.delete id)).result?, Run.result?, absent] at finished
    cases finished
  | @step _ run next goal leads h ih =>
    obtain ⟨before, after, new, hb, move, entered, -⟩ := Run.step?_spec h
    by_cases hg : Goal.delete id = goal
    · subst hg
      obtain ⟨-, dismantling, doomed⟩ := updates.removes setting.contains_of_mem_removals leads
      obtain ⟨listed, removing⟩ := dismantling.removing_of_move hb move rfl
      have recorded := dismantling.recorded id listed
      have after_eq := finished
      rw [Run.result?_eq_some, entered.progress?_eq, if_pos rfl] at after_eq
      obtain rfl := Option.some.inj after_eq
      cases removing with
      | deleted policy cleared =>
        apply relists.deletes regular regular' completes' completes unfailed unfailed' (leads.step h) finished
        intro needed hn
        rw [Run.dependents_eq entered.doomed_eq] at hn
        obtain ⟨outcome, gone⟩ := cleared needed hn
        exact ⟨outcome, ih gone⟩
      | retained policy =>
        rw [doomed, ← relists.removals] at listed
        obtain ⟨result, finished'⟩ := completes'.exists_removal unfailed' listed
        have left := dismantling'.cases_of_result finished'
        rw [relists.deletionPolicy, policy] at left
        rw [finished', left]
      | absent unrecorded => simp [Table.contains, unrecorded] at recorded
    · rw [(entered.kept hg).result?] at finished
      exact ih finished
  | wait _ _ ih =>
    rw [Run.result?_wait] at finished
    exact ih finished

end

variable (completes : setting.Completes world middle last)

include completes

/-- If nothing declared has failed in one update, nothing has in the other. -/
theorem unfailed (unfailed : middle.failures (setting.desired.resources.names.map .update) = []) :
  middle'.failures (other.desired.resources.names.map .update) = []
  := by
  rw [Run.failures_eq_nil] at unfailed ⊢
  intro goal hg error failed
  obtain ⟨id, listed, rfl⟩ := List.mem_map.mp hg
  rw [relists.desired.mem_names] at listed
  obtain ⟨resource, declared⟩ := (Table.exists_get?_iff _ _).mpr listed
  obtain ⟨result, finished, -⟩ := completes.exists_result declared
  cases result with
  | error error' => exact unfailed _ (List.mem_map_of_mem listed) error' finished
  | ok outcome =>
    obtain ⟨_, updates⟩ := completes.updates
    have succeeded := relists.succeeds_update regular regular' completes' updates finished
    cases succeeded.symm.trans (completes'.sound.2.2.kept _ _ failed)

/-- What succeeds in one update succeeds in the other, in the same way. -/
theorem succeeds {goal : Goal} (finished : last.result? goal = some (.ok outcome)) :
  last'.result? goal = some (.ok outcome)
  := by
  obtain ⟨_, updates⟩ := completes.updates
  cases goal with
  | update id =>
    obtain ⟨resource, declared, -⟩ := (completes.sound.2.1.accounted finished).cases_of_ok
    obtain ⟨result, before, after⟩ := completes.exists_result declared
    obtain rfl := Option.some.inj (finished.symm.trans after)
    exact relists.succeeds_update regular regular' completes' updates before
  | delete id =>
    have unfailed := completes.unfailed_of_result finished
    obtain ⟨⟨_, leads⟩, -⟩ := completes.removes unfailed
    exact relists.succeeds_delete regular regular' completes' completes unfailed
      (relists.unfailed regular regular' completes' completes unfailed) leads finished

/-- What has come to an end in one update has come to one in the other; of what is to be brought up to date this is
said of declared resources. -/
theorem exists_result {goal : Goal} (declared : ∀ id, goal = .update id → setting.desired.isResource id)
    {result : Except StackError Outcome} (finished : last.result? goal = some result) :
  ∃ result', last'.result? goal = some result'
  := by
  cases goal with
  | update id =>
    obtain ⟨resource, declared⟩ := Option.isSome_iff_exists.mp (declared id rfl)
    rw [← relists.desired.get?_eq] at declared
    obtain ⟨result', -, finished'⟩ := completes'.exists_result declared
    exact ⟨result', finished'⟩
  | delete id =>
    have listed := completes.mem_removals_of_result finished
    rw [← relists.removals] at listed
    apply completes'.exists_removal _ listed
    exact relists.unfailed regular regular' completes' completes (completes.unfailed_of_result finished)

/-- What fails in one update fails in the other, perhaps with another error. -/
theorem fails {goal : Goal} (declared : ∀ id, goal = .update id → setting.desired.isResource id) {error : StackError}
    (failed : last.result? goal = some (.error error)) :
  ∃ error', last'.result? goal = some (.error error')
  := by
  obtain ⟨result, finished⟩ := relists.exists_result regular regular' completes' completes declared failed
  cases result with
  | error error' => exact ⟨error', finished⟩
  | ok outcome =>
    rw [← relists.providers] at regular regular'
    cases (relists.symm.succeeds regular' regular completes completes' finished).symm.trans failed

end

end Setting.Relists

end Reconcile
