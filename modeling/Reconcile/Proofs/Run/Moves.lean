import Mathlib.Tactic.Common
import Reconcile.Run.Step

/-!
# Moves of tasks

A step of a run is a move of one task.  `Run.Move` says how a task can go on and which answers of
providers it takes; `Run.Entered` says what a step makes of the run.  Other tasks stay as they
are, but those that the task waits for are asked for.
-/

namespace Reconcile

variable {σ : Type}

namespace Goal

@[simp]
theorem withId_update (logicalId other : String) :
  (Goal.update logicalId).withId other = .update other
  := rfl

@[simp]
theorem withId_delete (logicalId other : String) :
  (Goal.delete logicalId).withId other = .delete other
  := rfl

end Goal

/-- The call that begins when a task has come this far. -/
def Progress.begunCalls (now : Nat) : Progress → List Call
  | .calling request _ _ _ => [⟨now, request⟩]
  | _ => []

namespace Run

/-! ### Entering and asking for tasks -/

theorem progress?_set (run : Run σ) (goal : Goal) (progress : Progress) (other : Goal) :
  (run.set goal progress).progress? other = if other = goal then some progress else run.progress? other
  := by
  cases goal with
  | update logicalId =>
    cases other with
    | update other => simp [set, progress?, Table.get?_insert]
    | delete other => simp [set, progress?]
  | delete logicalId =>
    cases other with
    | update other => simp [set, progress?]
    | delete other => simp [set, progress?, Table.get?_insert]

theorem progress?_request (run : Run σ) (goal other : Goal) :
  (run.request goal).progress? other
    = (run.progress? other).or (if other = goal then some .ready else none)
  := by
  unfold request
  split
  · next progress present =>
    split
    · next he =>
      rw [he, present]
      rfl
    · apply Option.or_none.symm
  · next absent =>
    rw [progress?_set]
    split
    · next he =>
      rw [he, absent]
      rfl
    · apply Option.or_none.symm

theorem progress?_requests (run : Run σ) (goals : List Goal) (other : Goal) :
  (goals.foldl request run).progress? other
    = (run.progress? other).or (if other ∈ goals then some .ready else none)
  := by
  induction goals generalizing run with
  | nil => simp
  | cons goal rest ih =>
    rw [List.foldl_cons, ih, progress?_request, Option.or_assoc]
    congr 1
    by_cases he : other = goal
    · simp [he]
    · simp [he]

/-- Asking for tasks changes nothing but the tasks. -/
theorem requests_eq (run : Run σ) (goals : List Goal) :
  ∃ updates deletions, goals.foldl request run = { run with updates, deletions }
  := by
  induction goals generalizing run with
  | nil => exact ⟨_, _, rfl⟩
  | cons goal rest ih =>
    have step : ∃ updates deletions, run.request goal = { run with updates, deletions } := by
      unfold request
      split
      · exact ⟨_, _, rfl⟩
      · cases goal with
        | update logicalId => exact ⟨_, _, rfl⟩
        | delete logicalId => exact ⟨_, _, rfl⟩
    obtain ⟨updates, deletions, hs⟩ := step
    obtain ⟨updates', deletions', hr⟩ := ih (run.request goal)
    use updates', deletions'
    rw [List.foldl_cons, hr, hs]

/-- What becomes of a run in which a task has come some way. -/
structure Entered (run : Run σ) (goal : Goal) (progress : Progress) (next : Run σ) : Prop where
  /-- The task has come this far, and those it waits for have been asked for. -/
  progress?_eq : ∀ other, next.progress? other
    = if other = goal then some progress
      else (run.progress? other).or
        (if other ∈ progress.waitsOn.map goal.withId then some .ready else none)
  now_eq : next.now = run.now
  doomed_eq : next.doomed = run.doomed
  calls_eq : next.calls = run.calls ++ progress.begunCalls run.now

theorem entered_enter (run : Run σ) (goal : Goal) (progress : Progress) :
  run.Entered goal progress (run.enter goal progress)
    ∧ (run.enter goal progress).exchanges = run.exchanges
  := by
  have progressed (other : Goal) :
      ((progress.waitsOn.map goal.withId).foldl request (run.set goal progress)).progress? other
        = if other = goal then some progress
          else (run.progress? other).or
            (if other ∈ progress.waitsOn.map goal.withId then some .ready else none) := by
    rw [progress?_requests, progress?_set]
    split
    · rfl
    · rfl
  have framed : ∃ updates deletions,
      (progress.waitsOn.map goal.withId).foldl request (run.set goal progress)
        = { run with updates, deletions } := by
    obtain ⟨updates, deletions, he⟩ := requests_eq (run.set goal progress) (progress.waitsOn.map goal.withId)
    use updates, deletions
    rw [he]
    cases goal with
    | update logicalId => rfl
    | delete logicalId => rfl
  unfold enter
  dsimp only
  generalize (progress.waitsOn.map goal.withId).foldl request (run.set goal progress) = next at *
  obtain ⟨updates, deletions, rfl⟩ := framed
  cases progress with
  | calling request attempt since due => exact ⟨⟨progressed, rfl, rfl, rfl⟩, rfl⟩
  | ready => exact ⟨⟨progressed, rfl, rfl, (List.append_nil _).symm⟩, rfl⟩
  | waiting on awaited => exact ⟨⟨progressed, rfl, rfl, (List.append_nil _).symm⟩, rfl⟩
  | resting request attempt since due => exact ⟨⟨progressed, rfl, rfl, (List.append_nil _).symm⟩, rfl⟩
  | finished result => exact ⟨⟨progressed, rfl, rfl, (List.append_nil _).symm⟩, rfl⟩

/-! ### Moves -/

variable (setting : Setting σ)

/-- How the task of a goal can go on, and the answers of providers that it takes. -/
inductive Move (run : Run σ) (goal : Goal) : Progress → Progress → List Exchange → Prop where
  | begun : Move run goal .ready (setting.begin run goal) []
  /-- One of the tasks that it waited for has failed. -/
  | blocked {on awaited : List String} {id : String}
      (ended : ∀ id ∈ on, (run.result? (goal.withId id)).isSome)
      (failed : run.firstFailed? goal on = some id) :
    Move run goal (.waiting on awaited) (.finished (.error (goal.blockedBy id))) []
  | proceeded {on awaited : List String}
      (ended : ∀ id ∈ on, (run.result? (goal.withId id)).isSome)
      (unfailed : run.firstFailed? goal on = none) :
    Move run goal (.waiting on awaited) (setting.proceed run awaited goal) []
  /-- There is nobody to answer. -/
  | unserved {request : Request} {attempt since due : Nat} {error : StackError}
      (missing : setting.providers.get request.type = .error error) :
    Move run goal (.calling request attempt since due) (.finished (.error error)) []
  | succeeded {request : Request} {attempt since due : Nat} {provider : Provider σ} {reply : Reply}
      (serving : setting.providers.get request.type = .ok provider)
      (answer : (provider.answer request run.world).1 = .ok reply) :
    Move run goal (.calling request attempt since due) (.finished (.ok (setting.outcome reply request)))
      [⟨request, .ok reply⟩]
  | delayed {request : Request} {attempt since due delay : Nat} {provider : Provider σ}
      {messages : List String} (serving : setting.providers.get request.type = .ok provider)
      (answer : (provider.answer request run.world).1 = .error messages)
      (again : setting.delay? provider request attempt = some delay) :
    Move run goal (.calling request attempt since due) (.resting request attempt since (run.now + delay))
      [⟨request, .error messages⟩]
  | failed {request : Request} {attempt since due : Nat} {provider : Provider σ}
      {messages : List String} (serving : setting.providers.get request.type = .ok provider)
      (answer : (provider.answer request run.world).1 = .error messages)
      (last : setting.delay? provider request attempt = none) :
    Move run goal (.calling request attempt since due)
      (.finished (.error (.providerFailed request.logicalId request.kind attempt
        (String.intercalate ": " messages))))
      [⟨request, .error messages⟩]
  | resumed {request : Request} {attempt since due : Nat} :
    Move run goal (.resting request attempt since due)
      (setting.call run.now request (attempt + 1) since) []

variable {setting}

/-- A move takes one answer at most. -/
theorem Move.answers_cases {run : Run σ} {goal : Goal} {before after : Progress} {answers : List Exchange}
    (move : Move setting run goal before after answers) :
  answers = [] ∨ ∃ exchange, answers = [exchange]
  := by
  cases move with
  | succeeded => exact .inr ⟨_, rfl⟩
  | delayed => exact .inr ⟨_, rfl⟩
  | failed => exact .inr ⟨_, rfl⟩
  | _ => exact .inl rfl

/-- The answer of a provider is a move. -/
theorem answered_spec (setting : Setting σ) (run : Run σ) (goal : Goal) (request : Request) (attempt since due : Nat) :
  ∃ after answers, Move setting run goal (.calling request attempt since due) after answers
    ∧ run.Entered goal after (run.answered setting goal request attempt since)
    ∧ (run.answered setting goal request attempt since).exchanges = run.exchanges ++ answers
  := by
  unfold answered
  match hp : setting.providers.get request.type with
  | .error error =>
    obtain ⟨entered, exchanges⟩ := run.entered_enter goal (.finished (.error error))
    refine ⟨_, _, .unserved hp, entered, ?_⟩
    rw [List.append_nil]
    apply exchanges
  | .ok provider =>
    cases ha : provider.answer request run.world with
    | mk answer world =>
      have answered : (provider.answer request run.world).1 = answer := by rw [ha]
      simp only [ha]
      cases answer with
      | ok reply =>
        obtain ⟨⟨progressed, now, doomed, calls⟩, exchanges⟩ :=
          ({ run with world, exchanges := run.exchanges ++ [⟨request, .ok reply⟩] } : Run σ).entered_enter
            goal (.finished (.ok (setting.outcome reply request)))
        exact ⟨_, _, .succeeded hp answered, ⟨progressed, now, doomed, calls⟩, exchanges⟩
      | error messages =>
        cases hd : setting.delay? provider request attempt with
        | some delay =>
          obtain ⟨⟨progressed, now, doomed, calls⟩, exchanges⟩ :=
            ({ run with world, exchanges := run.exchanges ++ [⟨request, .error messages⟩] } : Run σ).entered_enter
              goal (.resting request attempt since (run.now + delay))
          exact ⟨_, _, .delayed hp answered hd, ⟨progressed, now, doomed, calls⟩, exchanges⟩
        | none =>
          obtain ⟨⟨progressed, now, doomed, calls⟩, exchanges⟩ :=
            ({ run with world, exchanges := run.exchanges ++ [⟨request, .error messages⟩] } : Run σ).entered_enter
              goal (.finished (.error (.providerFailed request.logicalId request.kind attempt
                (String.intercalate ": " messages))))
          exact ⟨_, _, .failed hp answered hd, ⟨progressed, now, doomed, calls⟩, exchanges⟩

/-- A step is a move of its task. -/
theorem step?_spec {run next : Run σ} {goal : Goal} (h : run.step? setting goal = some next) :
  ∃ before after answers, run.progress? goal = some before ∧ Move setting run goal before after answers
    ∧ run.Entered goal after next ∧ next.exchanges = run.exchanges ++ answers
  := by
  unfold step? at h
  have entered (after : Progress) (he : run.enter goal after = next) :
      run.Entered goal after next ∧ next.exchanges = run.exchanges ++ [] := by
    obtain ⟨entered, exchanges⟩ := run.entered_enter goal after
    rw [← he, List.append_nil]
    exact ⟨entered, exchanges⟩
  split at h
  · cases h
  · cases h
  · next ready => exact ⟨_, _, _, ready, .begun, entered _ (Option.some.inj h)⟩
  · next on awaited waiting =>
    split at h
    · next ended =>
      rw [List.all_eq_true] at ended
      split at h
      · next id failed => exact ⟨_, _, _, waiting, .blocked ended failed, entered _ (Option.some.inj h)⟩
      · next unfailed => exact ⟨_, _, _, waiting, .proceeded ended unfailed, entered _ (Option.some.inj h)⟩
    · cases h
  · next request attempt since due calling =>
    split at h
    · obtain rfl := Option.some.inj h
      obtain ⟨after, answers, move, spec⟩ := run.answered_spec setting goal request attempt since due
      exact ⟨_, after, answers, calling, move, spec⟩
    · cases h
  · next request attempt since due resting =>
    split at h
    · exact ⟨_, _, _, resting, .resumed, entered _ (Option.some.inj h)⟩
    · cases h

/-- A task can take a step unless it has finished, waits for an unfinished one, or its time has not
come. -/
theorem exists_step?_iff (setting : Setting σ) (run : Run σ) (goal : Goal) :
  (∃ next, run.step? setting goal = some next)
    ↔ ∃ progress, run.progress? goal = some progress ∧ progress.result? = none
        ∧ (∀ id ∈ progress.waitsOn, (run.result? (goal.withId id)).isSome)
        ∧ ∀ due, progress.due? = some due → due ≤ run.now
  := by
  unfold step?
  match hp : run.progress? goal with
  | none => simp
  | some (.finished result) => simp [Progress.result?]
  | some .ready => simp [Progress.result?, Progress.waitsOn, Progress.due?]
  | some (.waiting on awaited) =>
    dsimp only
    by_cases ended : on.all fun id => (run.result? (goal.withId id)).isSome
    · rw [if_pos ended]
      rw [List.all_eq_true] at ended
      cases run.firstFailed? goal on <;> simpa [Progress.result?, Progress.waitsOn, Progress.due?] using ended
    · rw [if_neg ended]
      rw [List.all_eq_true] at ended
      simpa [Progress.result?, Progress.waitsOn, Progress.due?] using ended
  | some (.calling request attempt since due) =>
    by_cases reached : due ≤ run.now
    · simp [reached, Progress.result?, Progress.waitsOn, Progress.due?]
    · simp [reached, Progress.result?, Progress.waitsOn, Progress.due?]
  | some (.resting request attempt since due) =>
    by_cases reached : due ≤ run.now
    · simp [reached, Progress.result?, Progress.waitsOn, Progress.due?]
    · simp [reached, Progress.result?, Progress.waitsOn, Progress.due?]

/-- A task that is calling or resting can take a step when its time has come. -/
theorem exists_step?_of_due {run : Run σ} {goal : Goal} {progress : Progress} {due : Nat}
    (hp : run.progress? goal = some progress) (hd : progress.due? = some due) (reached : due ≤ run.now) :
  ∃ next, run.step? setting goal = some next
  := by
  apply (exists_step?_iff setting run goal).mpr
  refine ⟨progress, hp, ?_⟩
  cases progress with
  | calling request attempt since due' =>
    cases hd
    exact ⟨rfl, by simp [Progress.waitsOn], by simpa [Progress.due?] using reached⟩
  | resting request attempt since due' =>
    cases hd
    exact ⟨rfl, by simp [Progress.waitsOn], by simpa [Progress.due?] using reached⟩
  | _ => cases hd

end Run

end Reconcile
