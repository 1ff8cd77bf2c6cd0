import Mathlib.Tactic.Common
import Reconcile.Proofs.Run.Transcript

/-!
# Tasks one by one

What a step does to one task, and what it leaves alone of all others.  So something holds of every task when it
holds of tasks that have only been asked for, and the moves of a task keep it.
-/

namespace Reconcile

variable {σ : Type} {setting : Setting σ}

/-! ### First moves -/

/-- How far a task may come that has not called a provider before. -/
inductive Setting.Opens (setting : Setting σ) (now : Nat) : Progress → Prop where
  | waiting {on awaited : List String} : Opens setting now (.waiting on awaited)
  | finished {result : Except StackError Outcome} : Opens setting now (.finished result)
  | calling {request : Request} {provider : Provider σ} (serving : setting.providers.get request.type = .ok provider) :
    Opens setting now (.calling request 1 now (now + provider.duration request))

namespace Setting

theorem opens_call (setting : Setting σ) (request : Request) (now : Nat) :
  setting.Opens now (setting.call now request 1 now)
  := by
  obtain ⟨provider, serving, hc⟩ | ⟨error, -, hc⟩ := setting.call_cases now request 1 now
  · rw [hc]
    exact .calling serving
  · rw [hc]
    exact .finished

theorem opens_begin (setting : Setting σ) (run : Run σ) (goal : Goal) :
  setting.Opens run.now (setting.begin run goal)
  := by
  unfold begin
  split
  · split
    · exact .finished
    · split
      · exact .finished
      · exact .finished
      · exact .waiting
  · split
    · split
      · exact .finished
      · exact .finished
      · exact .waiting
    · exact .finished

theorem opens_proceed (setting : Setting σ) (run : Run σ) (awaited : List String) (goal : Goal) :
  setting.Opens run.now (setting.proceed run awaited goal)
  := by
  unfold proceed
  split
  · split
    · exact .finished
    · split
      · exact .finished
      · next progress evaluated =>
        obtain ⟨resolution, -, ⟨-, applied⟩ | ⟨pending, -, -, rfl⟩⟩ := evaluate_eq_ok evaluated
        · obtain ⟨properties, decision, -, ⟨-, previous, -, rfl⟩ | ⟨-, rfl⟩⟩ := apply_eq_ok applied
          · exact .finished
          · exact setting.opens_call _ _
        · exact .waiting
  · split
    · exact .finished
    · exact setting.opens_call _ _

end Setting

namespace Run

/-! ### Calls of tasks -/

/-- The calls of providers by the task of a goal, in order. -/
def callsOf (run : Run σ) (goal : Goal) : List Call := run.calls.filter fun call => call.request.goal = goal

variable {run next : Run σ} {goal : Goal}

theorem callsOf_eq {new : List Call} (h : next.calls = run.calls ++ new)
    (own : ∀ call ∈ new, call.request.goal = goal) (other : Goal) :
  next.callsOf other = run.callsOf other ++ if other = goal then new else []
  := by
  unfold callsOf
  rw [h, List.filter_append]
  congr 1
  split
  · next he =>
    apply List.filter_eq_self.mpr
    intro call hm
    simp [own call hm, he]
  · next he =>
    apply List.filter_eq_nil_iff.mpr
    intro call hm
    simpa [own call hm] using Ne.symm he

@[simp]
theorem calls_removing (run : Run σ) (ids : List String) :
  (run.removing ids).calls = run.calls
  := by
  obtain ⟨_, _, he⟩ := requests_eq { run with doomed := ids } (ids.map Goal.delete)
  rw [removing, he]

/-- A step moves one task.  Others stay as they are, or have just been asked for. -/
structure Moves (setting : Setting σ) (run next : Run σ) (goal : Goal) (before after : Progress)
    (new : List Exchange) : Prop where
  was : run.progress? goal = some before
  move : Move setting run goal before after new
  /-- The time of the task had come. -/
  due : ∀ due, before.due? = some due → due ≤ run.now
  now : next.now = run.now
  is : next.progress? goal = some after
  calls : next.callsOf goal = run.callsOf goal ++ after.begunCalls run.now
  answers : next.answers goal = run.answers goal ++ new.map (·.answer)
  others : ∀ other ≠ goal, Kept run next other ∧ next.callsOf other = run.callsOf other
    ∧ next.answers other = run.answers other

theorem Sound.moves (sound : run.Sound setting) (h : run.step? setting goal = some next) :
  ∃ before after new, Moves setting run next goal before after new
  := by
  obtain ⟨before, after, new, was, move, entered, exchanges⟩ := step?_spec h
  obtain ⟨before', was', -, -, due⟩ := (exists_step?_iff setting run goal).mp ⟨next, h⟩
  obtain rfl := Option.some.inj (was.symm.trans was')
  have is : next.progress? goal = some after := by rw [entered.progress?_eq, if_pos rfl]
  have own : ∀ call ∈ after.begunCalls run.now, call.request.goal = goal := by
    intro call hc
    cases after with
    | calling request attempt since due =>
      obtain rfl := List.mem_singleton.mp hc
      exact (sound.step h).1.goal_of_calling is
    | _ => cases hc
  have calls := callsOf_eq entered.calls_eq own
  have answers := answers_eq exchanges (sound.own_of_move was move)
  refine ⟨before, after, new, was, move, due, entered.now_eq, is, ?_, ?_, ?_⟩
  · rw [calls, if_pos rfl]
  · rw [answers, if_pos rfl]
  · intro other apart
    rw [calls, answers, if_neg apart, if_neg apart, List.append_nil, List.append_nil]
    exact ⟨entered.kept apart, rfl, rfl⟩

/-! ### What holds of every task -/

/-- Something holds of every task: of its calls, of the answers to them and of how far it has come. -/
structure Each (holds : List Call → List Answer → Progress → Prop) (run : Run σ) : Prop where
  tasks : ∀ goal progress, run.progress? goal = some progress →
    holds (run.callsOf goal) (run.answers goal) progress
  uncalled : ∀ goal, run.progress? goal = none → run.callsOf goal = []

namespace Each

variable {holds : List Call → List Answer → Progress → Prop} (ready : holds [] [] .ready)

include ready

/-- A task has it that has stayed as it was, or has just been asked for. -/
theorem holds_of_kept (each : run.Each holds) (sound : run.Sound setting) {progress : Progress}
    (kept : Kept run next goal) (h : next.progress? goal = some progress) :
  holds (run.callsOf goal) (run.answers goal) progress
  := by
  obtain same | ⟨absent, asked⟩ := kept
  · exact each.tasks goal progress (same.symm.trans h)
  · obtain rfl := Option.some.inj (asked.symm.trans h)
    rw [each.uncalled goal absent, sound.unasked goal absent]
    exact ready

omit ready in
theorem uncalled_of_kept (each : run.Each holds) (kept : Kept run next goal) (h : next.progress? goal = none) :
  run.callsOf goal = []
  := by
  obtain same | ⟨absent, -⟩ := kept
  · exact each.uncalled goal (same.symm.trans h)
  · exact each.uncalled goal absent

/-- It holds still when tasks have only been asked for. -/
theorem of_kept (each : run.Each holds) (sound : run.Sound setting) (kept : ∀ goal, Kept run next goal)
    (calls : next.calls = run.calls) (exchanges : next.exchanges = run.exchanges) :
  next.Each holds
  := by
  constructor
  · intro goal progress h
    rw [Run.callsOf, calls, Run.answers, exchanges]
    exact each.holds_of_kept ready sound (kept goal) h
  · intro goal h
    rw [Run.callsOf, calls]
    exact each.uncalled_of_kept (kept goal) h

theorem wait (each : run.Each holds) (sound : run.Sound setting) (later : Nat) :
  ({ run with now := later } : Run σ).Each holds
  := each.of_kept ready sound (fun goal => .inl (progress?_wait run later goal)) rfl rfl

theorem removing (each : run.Each holds) (sound : run.Sound setting) (ids : List String) :
  (run.removing ids).Each holds
  := each.of_kept ready sound (run.kept_removing ids) (run.calls_removing ids) (run.exchanges_removing ids)

/-- It holds after a step when the move of the step keeps it. -/
theorem moves (each : run.Each holds) (sound : run.Sound setting) {before after : Progress} {new : List Exchange}
    (moves : Moves setting run next goal before after new)
    (keeps : holds (run.callsOf goal) (run.answers goal) before →
      holds (run.callsOf goal ++ after.begunCalls run.now) (run.answers goal ++ new.map (·.answer)) after) :
  next.Each holds
  := by
  constructor
  · intro other progress h
    by_cases same : other = goal
    · subst same
      obtain rfl := Option.some.inj (moves.is.symm.trans h)
      rw [moves.calls, moves.answers]
      exact keeps (each.tasks other before moves.was)
    · obtain ⟨kept, calls, answers⟩ := moves.others other same
      rw [calls, answers]
      exact each.holds_of_kept ready sound kept h
  · intro other h
    have apart : other ≠ goal := by
      rintro rfl
      cases moves.is.symm.trans h
    obtain ⟨kept, calls, -⟩ := moves.others other apart
    rw [calls]
    exact each.uncalled_of_kept kept h

/-- It holds of the tasks that an update begins with. -/
theorem requested (setting : Setting σ) (world : σ) :
  (setting.requested world).Each holds
  := by
  have start : (setting.start world).Each holds := by
    constructor
    · intro goal
      cases goal with
      | update id => nofun
      | delete id => nofun
    · intro goal _
      rfl
  obtain ⟨_, _, he⟩ := requests_eq (setting.start world) (setting.desired.resources.names.map .update)
  apply start.of_kept ready (sound_start setting world) (kept_requests _ _)
  · rw [he]
  · rw [he]

end Each

end Run

end Reconcile
