import Mathlib.Tactic.Common
import Reconcile.Proofs.Run.Tasks

/-!
# Attempts

The task of a goal asks providers for one thing only, and asks again only when it was refused.  How
many attempts were made, how many were answered, and with what, tallies with how far the task has
come.
-/

namespace Reconcile

variable {σ : Type}

namespace Run

/-- What providers were asked for by the task of a goal, in order. -/
def asked (run : Run σ) (goal : Goal) : List Request :=
  (run.calls.filter fun call => call.request.goal = goal).map (·.request)

/-- What providers were asked for and have answered is one operation: one request, made again only when all
attempts before were refused. -/
inductive Attempts : List Request → List Answer → Prop where
  | none : Attempts [] []
  | pending {request : Request} {refusals : List Answer} (refused : Refusals refusals) :
    Attempts (List.replicate (refusals.length + 1) request) refusals
  | answered {request : Request} {refusals : List Answer} (refused : Refusals refusals) (answer : Answer) :
    Attempts (List.replicate (refusals.length + 1) request) (refusals ++ [answer])

/-- How far a task has come when providers were asked for this, and have answered so. -/
inductive Tally (setting : Setting σ) : List Request → List Answer → Progress → Prop where
  | ready : Tally setting [] [] .ready
  | waiting {on awaited : List String} : Tally setting [] [] (.waiting on awaited)
  | calling {request : Request} {refusals : List Answer} {provider : Provider σ} {since due : Nat}
      (serving : setting.providers.get request.type = .ok provider) (refused : Refusals refusals)
      (allowed : refusals.length < setting.tries provider request.kind) :
    Tally setting (List.replicate (refusals.length + 1) request) refusals
      (.calling request (refusals.length + 1) since due)
  | resting {request : Request} {refusals : List Answer} {messages : List String} {provider : Provider σ}
      {since due : Nat} (serving : setting.providers.get request.type = .ok provider)
      (refused : Refusals refusals) (allowed : refusals.length + 1 < setting.tries provider request.kind) :
    Tally setting (List.replicate (refusals.length + 1) request) (refusals ++ [.error messages])
      (.resting request (refusals.length + 1) since due)
  /-- It has finished without asking for anything. -/
  | untried {result : Except StackError Outcome} : Tally setting [] [] (.finished result)
  | succeeded {request : Request} {refusals : List Answer} {reply : Reply} {provider : Provider σ}
      (serving : setting.providers.get request.type = .ok provider) (refused : Refusals refusals)
      (allowed : refusals.length < setting.tries provider request.kind) :
    Tally setting (List.replicate (refusals.length + 1) request) (refusals ++ [.ok reply])
      (.finished (.ok (setting.outcome reply request)))
  | exhausted {request : Request} {refusals : List Answer} {messages : List String} {error : StackError}
      {provider : Provider σ} (serving : setting.providers.get request.type = .ok provider)
      (refused : Refusals refusals) (spent : refusals.length + 1 = setting.tries provider request.kind) :
    Tally setting (List.replicate (refusals.length + 1) request) (refusals ++ [.error messages])
      (.finished (.error error))

section

variable (setting : Setting σ) (run : Run σ)

/-- The calls of every task tally with their answers and with how far it has come. -/
structure Tallied : Prop where
  tasks : ∀ goal progress, run.progress? goal = some progress →
    Tally setting (run.asked goal) (run.answers goal) progress
  unasked : ∀ goal, run.progress? goal = none → run.asked goal = []

end

variable {setting : Setting σ} {run next : Run σ}

namespace Tally

variable {requests : List Request} {answers : List Answer} {progress : Progress}

/-- Whatever a task asks for is one operation. -/
theorem attempts (tally : Tally setting requests answers progress) :
  Attempts requests answers
  := by
  cases tally with
  | ready | waiting | untried => exact .none
  | calling serving refused allowed => exact .pending refused
  | resting serving refused allowed => exact .answered refused _
  | succeeded serving refused allowed => exact .answered refused _
  | exhausted serving refused spent => exact .answered refused _

/-- Once a task has finished, all that it asked for has been answered. -/
theorem length_eq {result : Except StackError Outcome} (tally : Tally setting requests answers (.finished result)) :
  answers.length = requests.length
  := by
  cases tally with
  | untried => rfl
  | succeeded serving refused allowed => simp
  | exhausted serving refused spent => simp

/-! ### Moves -/

/-- A task that has called nobody before makes the first attempt, if any. -/
theorem opens {now : Nat} (opens : setting.Opens now progress) :
  Tally setting ((progress.begunCalls now).map (·.request)) [] progress
  := by
  cases opens with
  | waiting => exact .waiting
  | finished => exact .untried
  | calling serving => exact Tally.calling serving Refusals.nil (setting.one_le_tries _ _)

/-- Another attempt, after the latest was refused. -/
theorem again {request : Request} {refusals : List Answer} {messages : List String} {provider : Provider σ}
    {since due : Nat} (serving : setting.providers.get request.type = .ok provider) (refused : Refusals refusals)
    (allowed : refusals.length + 1 < setting.tries provider request.kind) :
  Tally setting (List.replicate (refusals.length + 1) request ++ [request]) (refusals ++ [.error messages])
    (.calling request (refusals.length + 1 + 1) since due)
  := by
  have counted : refusals.length + 1 = (refusals ++ [Except.error messages]).length := by simp
  rw [← List.replicate_succ', counted]
  apply Tally.calling serving (refused.concat messages)
  rwa [counted] at allowed

/-- A move keeps the tally; the call that it begins and the answer that it takes are added. -/
theorem move {goal : Goal} {before after : Progress} {new : List Exchange}
    (tally : Tally setting requests answers before) (move : Move setting run goal before after new) :
  Tally setting (requests ++ (after.begunCalls run.now).map (·.request)) (answers ++ new.map (·.answer)) after
  := by
  cases move with
  | begun =>
    cases tally with
    | ready => exact .opens (setting.opens_begin run goal)
  | blocked ended failed =>
    cases tally with
    | waiting => exact .untried
  | proceeded ended unfailed =>
    cases tally with
    | waiting => exact .opens (setting.opens_proceed run _ goal)
  | unserved missing =>
    cases tally with
    | calling serving refused allowed => cases serving.symm.trans missing
  | succeeded served answer =>
    cases tally with
    | calling serving refused allowed =>
      simpa [Progress.begunCalls] using .succeeded serving refused allowed
  | @delayed request _ _ _ _ _ _ served answer again =>
    cases tally with
    | @calling _ _ provider _ _ serving refused allowed =>
      obtain rfl := Except.ok.inj (serving.symm.trans served)
      have more : answers.length + 1 < setting.tries provider request.kind := by
        apply Nat.lt_of_not_le
        intro spent
        rw [(Setting.delay?_eq_none (Nat.le_add_left 1 _)).mpr spent] at again
        cases again
      simpa [Progress.begunCalls] using .resting serving refused more
  | failed served answer last =>
    cases tally with
    | calling serving refused allowed =>
      obtain rfl := Except.ok.inj (serving.symm.trans served)
      have spent := (Setting.delay?_eq_none (Nat.le_add_left 1 _)).mp last
      simpa [Progress.begunCalls] using .exhausted serving refused (Nat.le_antisymm allowed spent)
  | @resumed request attempt since due =>
    cases tally with
    | @resting _ refusals messages provider _ _ serving refused allowed =>
      rw [List.map_nil, List.append_nil]
      obtain ⟨provider', served, hc⟩ | ⟨error, missing, -⟩ :=
        setting.call_cases run.now request (refusals.length + 1 + 1) since
      · obtain rfl := Except.ok.inj (serving.symm.trans served)
        rw [hc]
        simpa [Progress.begunCalls] using again serving refused allowed
      · cases serving.symm.trans missing

end Tally

/-! ### Runs -/

theorem tallied_iff_each :
  run.Tallied setting
    ↔ run.Each fun calls answers progress => Tally setting (calls.map (·.request)) answers progress
  := by
  constructor
  · intro tallied
    exact ⟨tallied.tasks, fun goal absent => List.map_eq_nil_iff.mp (tallied.unasked goal absent)⟩
  · intro each
    exact ⟨each.tasks, fun goal absent => List.map_eq_nil_iff.mpr (each.uncalled goal absent)⟩

namespace Tallied

theorem step (tallied : run.Tallied setting) (sound : run.Sound setting) {goal : Goal}
    (h : run.step? setting goal = some next) :
  next.Tallied setting
  := by
  obtain ⟨before, after, new, moves⟩ := sound.moves h
  apply tallied_iff_each.mpr
  apply (tallied_iff_each.mp tallied).moves .ready sound moves
  intro tally
  rw [List.map_append]
  exact tally.move moves.move

theorem wait (tallied : run.Tallied setting) (sound : run.Sound setting) (later : Nat) :
  ({ run with now := later } : Run σ).Tallied setting
  := tallied_iff_each.mpr ((tallied_iff_each.mp tallied).wait .ready sound later)

theorem removing (tallied : run.Tallied setting) (sound : run.Sound setting) (ids : List String) :
  (run.removing ids).Tallied setting
  := tallied_iff_each.mpr ((tallied_iff_each.mp tallied).removing .ready sound ids)

end Tallied

/-- Nothing has been asked for when an update begins. -/
theorem tallied_requested (setting : Setting σ) (world : σ) :
  (setting.requested world).Tallied setting
  := tallied_iff_each.mpr (.requested .ready setting world)

end Run

end Reconcile
