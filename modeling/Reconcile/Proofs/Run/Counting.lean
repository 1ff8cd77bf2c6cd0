import Mathlib
import Reconcile.Proofs.Run.Attempts

/-!
# Operations that are counted

What is counted for a type of resource are the tasks that have finished after they called a provider for it.  A step
counts an operation just when it is the end of one.
-/

namespace Reconcile

variable {σ : Type} {setting : Setting σ}

/-! ### Totals -/

/-- What is counted for some tasks that have come to their end, given the number of calls of each and whether it
failed. -/
structure TypeMetrics.Totals (ended : Finset Goal) (calls : Goal → Nat) (failed : Goal → Bool) (m : TypeMetrics) :
    Prop where
  operations : m.operations = ended.card
  attempts : m.attempts = ∑ goal ∈ ended, calls goal
  retries : m.retries = ∑ goal ∈ ended, (calls goal - 1)
  failures : m.failures = (ended.filter fun goal => failed goal).card

namespace TypeMetrics.Totals

variable {ended : Finset Goal} {calls calls' : Goal → Nat} {failed failed' : Goal → Bool} {m : TypeMetrics}

theorem empty (calls : Goal → Nat) (failed : Goal → Bool) :
  Totals ∅ calls failed {}
  := ⟨rfl, rfl, rfl, rfl⟩

theorem congr (totals : Totals ended calls failed m)
    (same : ∀ goal ∈ ended, calls' goal = calls goal ∧ failed' goal = failed goal) :
  Totals ended calls' failed' m
  where
  operations := totals.operations
  attempts := by
    rw [totals.attempts]
    exact Finset.sum_congr rfl fun goal hg => (same goal hg).1.symm
  retries := by
    rw [totals.retries]
    exact Finset.sum_congr rfl fun goal hg => by rw [(same goal hg).1]
  failures := by
    rw [totals.failures]
    congr 1
    exact Finset.filter_congr fun goal hg => by rw [(same goal hg).2]

/-- The end of one more operation is counted. -/
theorem insert (totals : Totals ended calls failed m) {goal : Goal} (fresh : goal ∉ ended) (duration : Nat) :
  Totals (insert goal ended) calls failed (m.count (calls goal) duration (!failed goal))
  where
  operations := by rw [Finset.card_insert_of_notMem fresh, count, totals.operations]
  attempts := by rw [Finset.sum_insert fresh, count, totals.attempts, Nat.add_comm (calls goal)]
  retries := by rw [Finset.sum_insert fresh, count, totals.retries, Nat.add_comm (calls goal - 1)]
  failures := by
    rw [Finset.filter_insert, count, totals.failures]
    cases failed goal with
    | false => simp
    | true => simp [fresh]

/-- When every task has made a call, the attempts are the operations and the retries. -/
theorem balance (totals : Totals ended calls failed m) (called : ∀ goal ∈ ended, calls goal ≠ 0) :
  m.attempts = m.operations + m.retries ∧ m.failures ≤ m.operations
  := by
  constructor
  · rw [totals.attempts, totals.operations, totals.retries, Finset.card_eq_sum_ones, ← Finset.sum_add_distrib]
    apply Finset.sum_congr rfl
    intro goal hg
    have := called goal hg
    omega
  · rw [totals.failures, totals.operations]
    apply Finset.card_filter_le

end TypeMetrics.Totals

namespace Run

variable {run next : Run σ} {goal : Goal} {type : String}

/-! ### Operations that have come to their end -/

/-- Whether the task of a goal has failed. -/
def hasFailed (run : Run σ) (goal : Goal) : Bool := (run.result? goal).any fun result => !result.isOk

/-- The tasks that have finished after they called a provider for a resource of a type. -/
def ended (run : Run σ) (type : String) : Finset Goal :=
  run.goals.toFinset.filter fun goal =>
    (run.result? goal).isSome ∧ ∃ request ∈ run.asked goal, request.type = type

/-- Just what has come to its end is counted for every type. -/
def Counted (run : Run σ) : Prop :=
  ∀ type, TypeMetrics.Totals (run.ended type) (fun goal => (run.asked goal).length) run.hasFailed
    ((run.metrics.get? type).getD {})

theorem mem_ended :
  goal ∈ run.ended type ↔ (run.result? goal).isSome ∧ ∃ request ∈ run.asked goal, request.type = type
  := by
  rw [ended, Finset.mem_filter, List.mem_toFinset]
  apply and_iff_right_of_imp
  rintro ⟨finished, -⟩
  obtain ⟨result, finished⟩ := Option.isSome_iff_exists.mp finished
  exact mem_goals.mpr ⟨_, result?_eq_some.mp finished⟩

/-- What is counted adds up. -/
theorem Counted.balance (counted : run.Counted) (type : String) :
  let m := (run.metrics.get? type).getD {}
  m.attempts = m.operations + m.retries ∧ m.failures ≤ m.operations
  := by
  apply (counted type).balance
  intro goal hg
  obtain ⟨-, request, asked, -⟩ := mem_ended.mp hg
  exact (List.length_pos_of_mem asked).ne'

/-! ### Steps -/

/-- What has been counted when a task has come from one progress to another. -/
inductive Charges (setting : Setting σ) (run : Run σ) : Progress → Progress → Metrics → Prop where
  /-- An operation has come to its end. -/
  | counted {request : Request} {attempt since due : Nat} {result : Except StackError Outcome} :
    Charges setting run (.calling request attempt since due) (.finished result)
      (run.metrics.record request.type attempt (run.now - since) result.isOk)
  | uncounted {before after : Progress}
      (unserved : ∀ request attempt since due result, before = .calling request attempt since due →
        after = .finished result → ∃ error, setting.providers.get request.type = .error error) :
    Charges setting run before after run.metrics

@[simp]
theorem metrics_requests (run : Run σ) (goals : List Goal) :
  (goals.foldl request run).metrics = run.metrics
  := by
  obtain ⟨_, _, he⟩ := run.requests_eq goals
  rw [he]

@[simp]
theorem metrics_enter (run : Run σ) (goal : Goal) (progress : Progress) :
  (run.enter goal progress).metrics = run.metrics
  := by
  have framed : ((progress.waitsOn.map goal.withId).foldl request (run.set goal progress)).metrics = run.metrics := by
    rw [metrics_requests]
    cases goal with
    | update id => rfl
    | delete id => rfl
  unfold enter
  cases progress with
  | _ => exact framed

theorem progress?_enter (run : Run σ) (goal : Goal) (progress : Progress) :
  (run.enter goal progress).progress? goal = some progress
  := by rw [(run.entered_enter goal progress).1.progress?_eq, if_pos rfl]

theorem charges_answered {request : Request} {attempt since due : Nat} {after : Progress}
    (is : (run.answered setting goal request attempt since).progress? goal = some after) :
  Charges setting run (.calling request attempt since due) after
    (run.answered setting goal request attempt since).metrics
  := by
  unfold answered at is ⊢
  match served : setting.providers.get request.type with
  | .error error =>
    simp only [served, metrics_enter] at is ⊢
    apply Charges.uncounted
    rintro _ _ _ _ _ ⟨⟩ -
    exact ⟨error, served⟩
  | .ok provider =>
    cases ha : provider.answer request run.world with
    | mk answer world =>
      simp only [served, ha] at is ⊢
      cases answer with
      | ok reply =>
        obtain rfl := Option.some.inj ((progress?_enter _ goal _).symm.trans is)
        exact .counted
      | error messages =>
        match again : setting.delay? provider request attempt with
        | some delay =>
          simp only [again, metrics_enter] at is ⊢
          obtain rfl := Option.some.inj ((progress?_enter _ goal _).symm.trans is)
          exact .uncounted (by simp)
        | none =>
          simp only [again] at is ⊢
          obtain rfl := Option.some.inj ((progress?_enter _ goal _).symm.trans is)
          exact .counted

theorem charges_of_step {before after : Progress} (h : run.step? setting goal = some next)
    (was : run.progress? goal = some before) (is : next.progress? goal = some after) :
  Charges setting run before after next.metrics
  := by
  have entered {progress : Progress} (idle : ∀ request attempt since due, before ≠ .calling request attempt since due)
      (he : some (run.enter goal progress) = some next) : Charges setting run before after next.metrics := by
    rw [← Option.some.inj he, metrics_enter]
    apply Charges.uncounted
    intro request attempt since due _ calling
    exact absurd calling (idle request attempt since due)
  unfold step? at h
  rw [was] at h
  cases before with
  | finished result => cases h
  | ready => exact entered (by simp) h
  | waiting on awaited =>
    dsimp only at h
    split at h
    · split at h
      · exact entered (by simp) h
      · exact entered (by simp) h
    · cases h
  | calling request attempt since due =>
    dsimp only at h
    split at h
    · obtain rfl := Option.some.inj h
      exact charges_answered is
    · cases h
  | resting request attempt since due =>
    dsimp only at h
    split at h
    · exact entered (by simp) h
    · cases h

/-- A task that finishes after it has called a provider does so at the answer to a call. -/
theorem Tally.calling_of_finished {requests : List Request} {answers : List Answer} {before : Progress}
    {result : Except StackError Outcome} {new : List Exchange} (tally : Tally setting requests answers before)
    (called : requests ≠ []) (move : Move setting run goal before (.finished result) new) :
  ∃ request attempt since due provider, before = .calling request attempt since due
    ∧ setting.providers.get request.type = .ok provider
  := by
  generalize ha : Progress.finished result = after at move
  cases tally with
  | ready | waiting | untried => exact absurd rfl called
  | calling serving refused allowed => exact ⟨_, _, _, _, _, rfl, serving⟩
  | @resting request refusals _ _ since _ serving refused allowed =>
    cases move with
    | resumed =>
      obtain ⟨_, -, hc⟩ | ⟨_, missing, -⟩ := setting.call_cases run.now request (refusals.length + 1 + 1) since
      · rw [hc] at ha
        cases ha
      · cases serving.symm.trans missing
  | succeeded | exhausted => cases move

theorem Tally.asked_of_calling {requests : List Request} {answers : List Answer} {request : Request}
    {attempt since due : Nat} (tally : Tally setting requests answers (.calling request attempt since due)) :
  requests = List.replicate attempt request ∧ attempt ≠ 0
  := by
  cases tally with
  | calling serving refused allowed => exact ⟨rfl, Nat.succ_ne_zero _⟩

namespace Moves

variable {before after : Progress} {new : List Exchange} (moves : Moves setting run next goal before after new)

include moves

theorem asked_eq :
  next.asked goal = run.asked goal ++ (after.begunCalls run.now).map (·.request)
  := by
  have calls : next.asked goal = (next.callsOf goal).map (·.request) := rfl
  rw [calls, moves.calls, List.map_append]
  rfl

theorem others_eq {other : Goal} (apart : other ≠ goal) :
  next.asked other = run.asked other ∧ next.result? other = run.result? other
  := by
  obtain ⟨kept, calls, -⟩ := moves.others other apart
  have asked : next.asked other = (next.callsOf other).map (·.request) := rfl
  rw [asked, calls]
  exact ⟨rfl, kept.result?⟩

theorem not_mem_ended :
  goal ∉ run.ended type
  := by
  rw [mem_ended, result?, moves.was, Option.bind_some, moves.move.unfinished]
  simp

/-- Only the task that moves may have come to its end. -/
theorem ended_eq (type : String) :
  next.ended type
    = if after.result?.isSome ∧ ∃ request ∈ next.asked goal, request.type = type then insert goal (run.ended type)
      else run.ended type
  := by
  have there : next.result? goal = after.result? := by rw [result?, moves.is, Option.bind_some]
  ext other
  by_cases same : other = goal
  · subst same
    rw [mem_ended, there]
    split
    · next ends => simp [ends]
    · next goesOn => simp only [goesOn, moves.not_mem_ended]
  · obtain ⟨asked, result⟩ := moves.others_eq same
    have unchanged : other ∈ next.ended type ↔ other ∈ run.ended type := by
      rw [mem_ended, mem_ended, asked, result]
    rw [unchanged]
    split
    · simp [same]
    · rfl

end Moves

/-- A step counts an operation when it is the end of one. -/
theorem Counted.step (counted : run.Counted) (sound : run.Sound setting) (tallied : run.Tallied setting)
    (h : run.step? setting goal = some next) :
  next.Counted
  := by
  obtain ⟨before, after, new, moves⟩ := sound.moves h
  have tally := tallied.tasks goal before moves.was
  intro type
  -- The tasks that had come to their end before are as they were.
  have totals : TypeMetrics.Totals (run.ended type) (fun goal => (next.asked goal).length) next.hasFailed
      ((run.metrics.get? type).getD {}) := by
    apply (counted type).congr
    intro other ho
    obtain ⟨asked, result⟩ := moves.others_eq (ne_of_mem_of_not_mem ho moves.not_mem_ended)
    exact ⟨by rw [asked], by rw [hasFailed, result, hasFailed]⟩
  rw [moves.ended_eq]
  generalize charged : next.metrics = metrics
  obtain @⟨request, attempt, since, due, result⟩ | ⟨unserved⟩ := charged ▸ charges_of_step h moves.was moves.is
  · obtain ⟨requests, positive⟩ := tally.asked_of_calling
    have asked : next.asked goal = List.replicate attempt request := by
      rw [moves.asked_eq, requests]
      exact List.append_nil _
    have finished : next.result? goal = some result := result?_eq_some.mpr moves.is
    rw [Metrics.record, Table.get?_insert]
    by_cases same : request.type = type
    · have one := totals.insert moves.not_mem_ended (run.now - since)
      rw [asked, List.length_replicate, hasFailed, finished] at one
      rw [if_pos ⟨rfl, request, by simp [asked, positive], same⟩, if_pos same.symm, same]
      simpa using one
    · have elsewhere : ¬ ∃ other ∈ next.asked goal, other.type = type := by
        rintro ⟨other, ho, ht⟩
        rw [asked] at ho
        exact same (List.eq_of_mem_replicate ho ▸ ht)
      rw [if_neg fun ends => elsewhere ends.2, if_neg (Ne.symm same)]
      exact totals
  · rw [if_neg]
    · exact totals
    · rintro ⟨finished, request, hr, -⟩
      obtain ⟨result, rfl⟩ : ∃ result, after = .finished result := by
        cases after with
        | finished result => exact ⟨result, rfl⟩
        | _ => cases finished
      have called : run.asked goal ≠ [] := by
        rw [moves.asked_eq] at hr
        exact List.ne_nil_of_mem (by simpa [Progress.begunCalls] using hr)
      obtain ⟨_, _, _, _, _, rfl, serving⟩ := tally.calling_of_finished called moves.move
      obtain ⟨_, missing⟩ := unserved _ _ _ _ _ rfl rfl
      cases serving.symm.trans missing

/-- As much is counted where no task has called a provider or come to its end. -/
theorem Counted.of_same (counted : run.Counted) (results : ∀ goal, next.result? goal = run.result? goal)
    (calls : next.calls = run.calls) (metrics : next.metrics = run.metrics) :
  next.Counted
  := by
  have asked (goal : Goal) : next.asked goal = run.asked goal := by rw [Run.asked, calls, Run.asked]
  intro type
  have ended : next.ended type = run.ended type := by
    ext goal
    rw [mem_ended, mem_ended, results, asked]
  rw [ended, metrics]
  apply (counted type).congr
  intro goal _
  exact ⟨by rw [asked], by rw [hasFailed, results, hasFailed]⟩

theorem Counted.wait (counted : run.Counted) (later : Nat) :
  ({ run with now := later } : Run σ).Counted
  := counted.of_same (run.result?_wait later) rfl rfl

theorem Counted.removing (counted : run.Counted) (ids : List String) :
  (run.removing ids).Counted
  := by
  apply counted.of_same (fun goal => (run.kept_removing ids goal).result?) (run.calls_removing ids)
  rw [Run.removing, metrics_requests]

/-- Nothing is counted when an update begins. -/
theorem counted_requested (setting : Setting σ) (world : σ) :
  (setting.requested world).Counted
  := by
  intro type
  have ended : (setting.requested world).ended type = ∅ := by
    ext goal
    rw [mem_ended, Setting.result?_requested]
    simp
  have metrics : (setting.requested world).metrics = .empty := by
    rw [Setting.requested, metrics_requests]
    rfl
  rw [ended, metrics]
  exact .empty _ _

end Run

end Reconcile
