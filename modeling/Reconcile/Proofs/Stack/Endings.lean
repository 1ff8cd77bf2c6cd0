import Mathlib.Tactic.Common
import Reconcile.Proofs.Run.Regularity
import Reconcile.Proofs.Stack.Keeping
import Reconcile.Proofs.Stack.Operations

/-!
# How tasks end

When nothing stands in the way of a task, providers settle how it ends: nobody serves its request,
the request succeeds, or all attempts are refused.  So a task that asks regular providers for the
same thing in two runs, and succeeds in one of them, succeeds in the other with the same reply.
-/

namespace Reconcile

variable {σ : Type} {setting : Setting σ}

/-- How a task ends that asks providers for one thing, and gets these answers. -/
inductive Ending (setting : Setting σ) (request : Request) (answers : List Answer) :
    Except StackError Outcome → Prop where
  | unserved {missing error : StackError} (unserved : setting.providers.get request.type = .error missing) :
    Ending setting request answers (.error error)
  | succeeded {provider : Provider σ} {refusals : List Answer} {reply : Reply}
      (serving : setting.providers.get request.type = .ok provider) (refused : Refusals refusals)
      (answered : answers = refusals ++ [.ok reply])
      (allowed : refusals.length < setting.tries provider request.kind) :
    Ending setting request answers (.ok (setting.outcome reply request))
  | exhausted {provider : Provider σ} {error : StackError}
      (serving : setting.providers.get request.type = .ok provider) (refused : Refusals answers)
      (spent : answers.length = setting.tries provider request.kind) :
    Ending setting request answers (.error error)

/-- Where a request has succeeded, it succeeds in the same way when the replies are the same. -/
theorem Ending.unique {request : Request} {answers answers' : List Answer} {outcome : Outcome}
    {result : Except StackError Outcome} {replies : Nat → Answer}
    (ending : Ending setting request answers (.ok outcome)) (follows : Follows replies answers)
    (ending' : Ending setting request answers' result) (follows' : Follows replies answers') :
  result = .ok outcome
  := by
  cases ending with
  | succeeded serving refused answered allowed =>
    subst answered
    cases ending' with
    | unserved unserved => cases serving.symm.trans unserved
    | succeeded _ refused' answered' =>
      subst answered'
      rw [follows.unique refused follows' refused']
    | exhausted serving' refused' spent =>
      obtain rfl := Except.ok.inj (serving.symm.trans serving')
      have earlier := follows.length_le follows' refused'
      omega

/-- A request that comes to an end when it is made is served by nobody. -/
theorem Ending.of_call {request : Request} {answers : List Answer} {result : Except StackError Outcome}
    {now attempt since : Nat} (ended : setting.call now request attempt since = .finished result) :
  Ending setting request answers result
  := by
  obtain ⟨provider, -, hc⟩ | ⟨error, unserved, hc⟩ := setting.call_cases now request attempt since
  · cases hc.symm.trans ended
  · obtain rfl := Progress.finished.inj (hc.symm.trans ended)
    exact .unserved unserved

namespace Run

variable {run : Run σ} {id : String} {resource : Resource} {properties : Json} {decision : Decision}
  {answers : List Answer}

/-! ### Resources that are brought up to date -/

/-- A prepared resource can only be thwarted by providers. -/
theorem Thwarted.ending (thwarted : run.Thwarted setting answers id resource)
    (prepared : run.Prepared setting id resource properties decision) (error : StackError) :
  decision.operation ≠ .skip
    ∧ Ending setting (setting.requestFor id resource properties) answers (.error error)
  := by
  have typed : (setting.requestFor id resource properties).type = resource.type := setting.type_requestFor ..
  cases thwarted with
  | inactive failed => cases prepared.active.symm.trans failed
  | unpreceded needed failed =>
    obtain ⟨outcome, finished⟩ := prepared.preceded _ needed
    cases finished.symm.trans failed
  | unsupplied seeks failed =>
    obtain ⟨outcome, finished⟩ := prepared.endsWell seeks
    cases finished.symm.trans failed
  | unresolved failed =>
    obtain ⟨resolution, evaluated, -⟩ := prepared.resolved
    cases evaluated.symm.trans failed
  | unserved prepared' calls missing =>
    obtain ⟨rfl, rfl⟩ := prepared.unique prepared'
    exact ⟨calls, .unserved (typed ▸ missing)⟩
  | exhausted prepared' calls serving refused spent =>
    obtain ⟨rfl, rfl⟩ := prepared.unique prepared'
    exact ⟨calls, .exhausted (typed ▸ serving) refused spent⟩

/-- A prepared resource that is skipped is left as it is recorded. -/
theorem Justified.skips {result : Except StackError Outcome}
    (justified : run.Justified setting answers id resource (.finished result))
    (prepared : run.Prepared setting id resource properties decision) (skips : decision.operation = .skip) :
  ∃ previous, setting.previous.resources.get? id = some previous
    ∧ result = .ok (.applied (setting.applied id properties previous) .skip)
  := by
  cases justified with
  | skipped prepared' skips' recorded =>
    obtain ⟨rfl, rfl⟩ := prepared.unique prepared'
    exact ⟨_, recorded, rfl⟩
  | succeeded prepared' calls =>
    obtain ⟨rfl, rfl⟩ := prepared.unique prepared'
    exact absurd skips calls
  | excluded inactive => cases prepared.active.symm.trans inactive
  | @thwarted error _ thwarted => exact absurd skips (thwarted.ending prepared error).1

/-- A prepared resource that is not skipped ends as providers have it. -/
theorem Justified.ending {result : Except StackError Outcome}
    (justified : run.Justified setting answers id resource (.finished result))
    (prepared : run.Prepared setting id resource properties decision) (calls : decision.operation ≠ .skip) :
  Ending setting (setting.requestFor id resource properties) answers result
  := by
  have typed : (setting.requestFor id resource properties).type = resource.type := setting.type_requestFor ..
  cases justified with
  | skipped prepared' skips =>
    obtain ⟨rfl, rfl⟩ := prepared.unique prepared'
    exact absurd skips calls
  | succeeded prepared' calls' serving refused answered allowed =>
    obtain ⟨rfl, rfl⟩ := prepared.unique prepared'
    obtain ⟨resolution, -, decides⟩ := prepared.resolved
    rw [← outcome_requestFor decides calls]
    apply Ending.succeeded (typed ▸ serving) refused answered
    rw [answered, List.length_append, List.length_singleton] at allowed
    exact allowed
  | excluded inactive => cases prepared.active.symm.trans inactive
  | thwarted _ thwarted => exact (thwarted.ending prepared _).2

/-- A resource whose condition is false ends as excluded. -/
theorem Justified.eq_excluded {result : Except StackError Outcome}
    (justified : run.Justified setting answers id resource (.finished result))
    (inactive : setting.inputs.conditions.isActive resource.condition = .ok false) :
  result = .ok .excluded
  := by
  cases justified with
  | skipped prepared => cases prepared.active.symm.trans inactive
  | succeeded prepared => cases prepared.active.symm.trans inactive
  | excluded => rfl
  | thwarted included => exact absurd inactive included

/-! ### Resources that are deleted -/

/-- A recorded resource is deleted by one request. -/
theorem Aims.eq {previous : PhysicalResource} {request : Request} (aims : Aims setting id request)
    (recorded : setting.previous.resources.get? id = some previous) :
  request = .delete id previous.type previous
  := by
  obtain ⟨previous', recorded', rfl⟩ := aims
  obtain rfl := Option.some.inj (recorded.symm.trans recorded')
  rfl

/-- A move that ends the task which deletes a resource, when none of the dependents has failed. -/
theorem Removing.ending {before : Progress} {new : List Exchange} {previous : PhysicalResource}
    {result : Except StackError Outcome} {requests : List Request} (removing : run.Removing setting id before)
    (targets : Targets setting id before) (tally : Tally setting requests answers before)
    (move : Move setting run (.delete id) before (.finished result) new)
    (recorded : setting.previous.resources.get? id = some previous) (policy : setting.deletionPolicy id = .delete)
    (unfailed : ∀ other ∈ setting.dependents run id, ∀ error, run.result? (.delete other) ≠ some (.error error)) :
  Ending setting (.delete id previous.type previous) (answers ++ new.map (·.answer)) result
  := by
  generalize ha : Progress.finished result = after at move
  cases move with
  | begun => simp [Setting.begin, Table.contains, recorded, policy] at ha
  | blocked ended failed =>
    cases removing with
    | waiting policy =>
      obtain ⟨needed, error, failed⟩ := mem_of_firstFailed? failed
      exact absurd failed (unfailed _ needed error)
  | proceeded ended failed =>
    simp only [Setting.proceed, recorded] at ha
    exact .of_call ha.symm
  | unserved missing =>
    obtain rfl := Aims.eq targets recorded
    obtain rfl := Progress.finished.inj ha
    exact .unserved missing
  | succeeded served answer =>
    obtain rfl := Aims.eq targets recorded
    obtain rfl := Progress.finished.inj ha
    cases tally with
    | calling serving refused allowed => exact .succeeded serving refused rfl allowed
  | delayed served answer again => cases ha
  | failed served answer last =>
    obtain rfl := Aims.eq targets recorded
    obtain rfl := Progress.finished.inj ha
    cases tally with
    | calling serving refused allowed =>
      obtain rfl := Except.ok.inj (serving.symm.trans served)
      have spent := (Setting.delay?_eq_none (Nat.le_add_left 1 _)).mp last
      apply Ending.exhausted serving (refused.concat _)
      rw [List.length_append]
      exact Nat.le_antisymm allowed spent
  | resumed =>
    obtain rfl := Aims.eq targets recorded
    exact .of_call ha.symm

end Run

namespace Setting

variable {world : σ} {middle run : Run σ} {id : String} {count : Nat}

/-- When none of its dependents has failed, a resource that is to be deleted ends as providers have it. -/
theorem ending_of_removing (leads : Run.Leads setting (setting.requested world) count middle)
    (updated : middle.isOver) (unfailed : middle.failures (setting.desired.resources.names.map .update) = [])
    {count' : Nat} (leads' : Run.Leads setting (middle.removing setting.removals) count' run)
    {previous : PhysicalResource} {result : Except StackError Outcome}
    (recorded : setting.previous.resources.get? id = some previous) (policy : setting.deletionPolicy id = .delete)
    (finished : run.result? (.delete id) = some result)
    (cleared : ∀ other ∈ setting.dependents run id, ∀ error, run.result? (.delete other) ≠ some (.error error)) :
  Ending setting (.delete id previous.type previous) (run.answers (.delete id)) result
  := by
  induction leads' with
  | here =>
    have absent := leads.no_deletion id
    rw [(middle.kept_removing setting.removals (.delete id)).result?, Run.result?, absent] at finished
    cases finished
  | @step _ run next goal leads' h ih =>
    have reaches : setting.Reaches world run := .removing leads updated unfailed leads'
    obtain ⟨-, dismantling, -⟩ := leads.removes setting.contains_of_mem_removals leads'
    obtain ⟨before, after, new, hb, move, entered, exchanges⟩ := Run.step?_spec h
    have unhindered : ∀ other ∈ setting.dependents run id, ∀ error,
        run.result? (.delete other) ≠ some (.error error) := by
      intro other needed error failed
      rw [← Run.dependents_eq entered.doomed_eq] at needed
      exact cleared other needed error (Run.result?_step h failed)
    have answers := Run.answers_eq exchanges (reaches.sound.own_of_move hb move) (.delete id)
    by_cases hg : Goal.delete id = goal
    · subst hg
      rw [Run.result?_eq_some, entered.progress?_eq, if_pos rfl] at finished
      obtain rfl := Option.some.inj finished
      rw [answers, if_pos rfl]
      exact (dismantling.tasks id before hb).2.ending (reaches.attested.2.2.tasks id before hb)
        (reaches.tallied.tasks _ before hb) move recorded policy unhindered
    · rw [answers, if_neg hg, List.append_nil]
      rw [(entered.kept hg).result?] at finished
      exact ih finished unhindered
  | wait _ _ ih =>
    rw [Run.result?_wait] at finished
    simp only [Run.result?_wait] at cleared
    exact ih finished cleared

/-! ### Regular providers -/

section

variable {first : σ} {reply : Request → Nat → Answer} (reaches : setting.Reaches first run)
  (regular : setting.providers.Regular first reply)

include reaches regular

/-- What the task of a prepared resource is answered follows the replies to its request. -/
theorem Reaches.follows_update {resource : Resource} {properties : Json} {decision : Decision}
    (declared : setting.desired.resources.get? id = some resource)
    (prepared : run.Prepared setting id resource properties decision) :
  Follows (reply (setting.requestFor id resource properties)) (run.answers (.update id))
  := by
  have served := setting.goal_requestFor id resource properties
  rw [← served]
  apply reaches.attested.1.follows regular
  intro exchange hm asked
  rw [served] at asked
  obtain ⟨resource', properties', _, declared', prepared', requested⟩ :=
    reaches.faithful.prepared_of_exchange reaches.sound hm asked
  obtain rfl := Option.some.inj (declared.symm.trans declared')
  obtain ⟨rfl, -⟩ := prepared.unique prepared'
  exact requested

/-- What the task that deletes a recorded resource is answered follows the replies to its request. -/
theorem Reaches.follows_delete {previous : PhysicalResource}
    (recorded : setting.previous.resources.get? id = some previous) :
  Follows (reply (.delete id previous.type previous)) (run.answers (.delete id))
  := by
  have served : (Request.delete id previous.type previous).goal = .delete id := rfl
  rw [← served]
  apply reaches.attested.1.follows regular
  intro exchange hm asked
  exact (reaches.attested.2.2.asked exchange hm id asked).eq recorded

end

end Setting

end Reconcile
