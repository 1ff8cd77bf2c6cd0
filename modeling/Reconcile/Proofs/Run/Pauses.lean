import Mathlib
import Reconcile.Proofs.Backoff
import Reconcile.Proofs.Run.Attempts

/-!
# Pauses between attempts

A task that calls a provider again does so when the next delay of the schedule has passed since the answer to the
call before.  No schedule of steps makes it come sooner, and one that lets no time pass in which something is due
makes it come just then.  A task that fails in the end reports as many attempts as it has made calls.
-/

namespace Reconcile

/-! ### Calls at a distance -/

variable {σ : Type}

/-- How a time may meet the one that is aimed at: it is no sooner, or it is the same. -/
structure Meeting (Meets : Nat → Nat → Prop) : Prop where
  trans : ∀ due time later, Meets due time → Meets time later → Meets due later
  add : ∀ due time more, Meets due time → Meets (due + more) (time + more)

theorem meeting_le :
  Meeting (· ≤ ·)
  := ⟨fun _ _ _ => Nat.le_trans, fun _ _ more le => Nat.add_le_add_right le more⟩

theorem meeting_eq :
  Meeting (· = ·)
  := ⟨fun _ _ _ => Eq.trans, fun _ _ _ => congrArg (· + _)⟩

namespace Run

section

variable (setting : Setting σ) (Meets : Nat → Nat → Prop)

/-- Every call but the first begins when the one before was answered and the next delay of the schedule has passed. -/
def Spaced (calls : List Call) : Prop :=
  ∀ n first second, calls[n]? = some first → calls[n + 1]? = some second →
    ∃ provider pause, setting.providers.get first.request.type = .ok provider
      ∧ setting.config.retry.pauses[n]? = some pause
      ∧ Meets (first.start + provider.duration first.request + pause) second.start

/-- How far a task has come that has made these calls and got these answers. -/
inductive Course : List Call → List Answer → Progress → Prop where
  | ready : Course [] [] .ready
  | waiting {on awaited : List String} : Course [] [] (.waiting on awaited)
  | calling {earlier : List Call} {answers : List Answer} {request : Request} {provider : Provider σ}
      {start since : Nat} (spaced : Spaced setting Meets (earlier ++ [⟨start, request⟩]))
      (serving : setting.providers.get request.type = .ok provider) :
    Course (earlier ++ [⟨start, request⟩]) answers
      (.calling request (earlier.length + 1) since (start + provider.duration request))
  | resting {earlier : List Call} {answers : List Answer} {request : Request} {provider : Provider σ}
      {start since pause due : Nat} (spaced : Spaced setting Meets (earlier ++ [⟨start, request⟩]))
      (serving : setting.providers.get request.type = .ok provider)
      (paused : setting.config.retry.pauses[earlier.length]? = some pause)
      (rested : Meets (start + provider.duration request + pause) due) :
    Course (earlier ++ [⟨start, request⟩]) answers (.resting request (earlier.length + 1) since due)
  /-- It has finished without a call. -/
  | untried {result : Except StackError Outcome} : Course [] [] (.finished result)
  | succeeded {calls : List Call} {answers : List Answer} {outcome : Outcome}
      (spaced : Spaced setting Meets calls) :
    Course calls answers (.finished (.ok outcome))
  | failed {earlier : List Call} {answers : List Answer} {request : Request} {start : Nat} {messages : List String}
      (spaced : Spaced setting Meets (earlier ++ [⟨start, request⟩])) :
    Course (earlier ++ [⟨start, request⟩]) (answers ++ [.error messages])
      (.finished (.error (.providerFailed request.logicalId request.kind (earlier.length + 1)
        (String.intercalate ": " messages))))

end

variable {setting : Setting σ} {Meets : Nat → Nat → Prop} {run : Run σ} {goal : Goal}

theorem spaced_nil :
  Spaced setting Meets []
  := nofun

theorem spaced_singleton (call : Call) :
  Spaced setting Meets [call]
  := by
  intro n first second _ hs
  rw [List.getElem?_eq_none (by simp)] at hs
  cases hs

/-- Another call may begin when the next delay has passed since the answer to the last one. -/
theorem Spaced.concat {earlier : List Call} {request : Request} {provider : Provider σ} {start pause : Nat}
    (spaced : Spaced setting Meets (earlier ++ [⟨start, request⟩]))
    (serving : setting.providers.get request.type = .ok provider)
    (paused : setting.config.retry.pauses[earlier.length]? = some pause) {call : Call}
    (met : Meets (start + provider.duration request + pause) call.start) :
  Spaced setting Meets (earlier ++ [⟨start, request⟩] ++ [call])
  := by
  have length : (earlier ++ [(⟨start, request⟩ : Call)]).length = earlier.length + 1 := by simp
  intro n first second hf hs
  obtain ⟨within, -⟩ := List.getElem?_eq_some_iff.mp hs
  rw [List.length_append, length, List.length_singleton] at within
  rw [List.getElem?_append_left (by omega)] at hf
  obtain last | before := Nat.eq_or_lt_of_le (Nat.le_of_lt_succ within)
  · obtain rfl : n = earlier.length := by omega
    rw [List.getElem?_concat_length] at hf
    rw [← length, List.getElem?_concat_length] at hs
    cases hf
    cases hs
    exact ⟨provider, pause, serving, paused, met⟩
  · rw [List.getElem?_append_left (by omega)] at hs
    exact spaced n first second hf hs

namespace Course

variable {calls : List Call} {answers : List Answer} {before after : Progress} {new : List Exchange}

theorem spaced {progress : Progress} (course : Course setting Meets calls answers progress) :
  Spaced setting Meets calls
  := by
  cases course with
  | ready | waiting | untried => exact spaced_nil
  | calling spaced serving => exact spaced
  | resting spaced serving paused rested => exact spaced
  | succeeded spaced => exact spaced
  | failed spaced => exact spaced

/-- A task that fails after it has made calls reports their number, and what the last one was answered. -/
theorem error_eq {error : StackError} (course : Course setting Meets calls answers (.finished (.error error)))
    (called : calls ≠ []) {last : Call} (hl : calls.getLast? = some last) {messages : List String}
    (refused : answers.getLast? = some (.error messages)) :
  error = .providerFailed last.request.logicalId last.request.kind calls.length (String.intercalate ": " messages)
  := by
  cases course with
  | untried => exact absurd rfl called
  | failed spaced =>
    rw [List.getLast?_concat] at hl refused
    cases hl
    cases refused
    rw [List.length_append, List.length_singleton]

theorem opens {now : Nat} (opens : setting.Opens now after) :
  Course setting Meets (after.begunCalls now) [] after
  := by
  cases opens with
  | waiting => exact .waiting
  | finished => exact .untried
  | @calling request provider serving =>
    have first : Spaced setting Meets ([] ++ [⟨now, request⟩]) := spaced_singleton ⟨now, request⟩
    exact Course.calling first serving

/-- A move at the time of its task keeps the distances. -/
theorem move (meeting : Meeting Meets) (course : Course setting Meets calls answers before)
    (move : Move setting run goal before after new) (met : ∀ due, before.due? = some due → Meets due run.now) :
  Course setting Meets (calls ++ after.begunCalls run.now) (answers ++ new.map (·.answer)) after
  := by
  cases move with
  | begun =>
    cases course with
    | ready => exact .opens (setting.opens_begin run goal)
  | blocked ended failed =>
    cases course with
    | waiting => exact .untried
  | proceeded ended unfailed =>
    cases course with
    | waiting => exact .opens (setting.opens_proceed run _ goal)
  | unserved missing =>
    cases course with
    | calling spaced serving => cases serving.symm.trans missing
  | succeeded served answer =>
    cases course with
    | calling spaced serving => simpa [Progress.begunCalls] using .succeeded spaced
  | @delayed request _ _ _ delay provider messages served answer again =>
    cases course with
    | @calling earlier _ _ provider' start _ spaced serving =>
      obtain rfl := Except.ok.inj (serving.symm.trans served)
      have paused : setting.config.retry.pauses[earlier.length]? = some delay := by
        unfold Setting.delay? at again
        split at again
        · rwa [Retry.delay?_eq] at again
        · cases again
      simpa [Progress.begunCalls] using .resting spaced serving paused (meeting.add _ _ _ (met _ rfl))
  | failed served answer last =>
    cases course with
    | calling spaced serving => simpa [Progress.begunCalls] using .failed spaced
  | @resumed request _ since due =>
    cases course with
    | @resting earlier _ _ provider start _ pause _ spaced serving paused rested =>
      have again : Spaced setting Meets (earlier ++ [⟨start, request⟩] ++ [⟨run.now, request⟩]) :=
        spaced.concat serving paused (meeting.trans _ _ _ rested (met _ rfl))
      obtain ⟨provider', served, hc⟩ | ⟨error, missing, -⟩ :=
        setting.call_cases run.now request (earlier.length + 1 + 1) since
      · rw [hc, List.map_nil, List.append_nil]
        have length : earlier.length + 1 = (earlier ++ [(⟨start, request⟩ : Call)]).length := by simp
        rw [length]
        exact .calling again served
      · cases serving.symm.trans missing

end Course

/-! ### Runs that lose no time -/

variable {next : Run σ}

/-- Nothing has been due for some time. -/
def Punctual (run : Run σ) : Prop :=
  ∀ goal progress, run.progress? goal = some progress → ∀ due, progress.due? = some due → run.now ≤ due

namespace Punctual

theorem le_of_kept (punctual : run.Punctual) (kept : Kept run next goal) {progress : Progress} {due : Nat}
    (hp : next.progress? goal = some progress) (hd : progress.due? = some due) :
  run.now ≤ due
  := by
  obtain same | ⟨-, asked⟩ := kept
  · exact punctual goal progress (same.symm.trans hp) due hd
  · obtain rfl := Option.some.inj (asked.symm.trans hp)
    cases hd

theorem of_kept (punctual : run.Punctual) (kept : ∀ goal, Kept run next goal) (now : next.now = run.now) :
  next.Punctual
  := by
  intro goal progress hp due hd
  rw [now]
  exact punctual.le_of_kept (kept goal) hp hd

/-- What a move puts off it puts off until later. -/
theorem le_of_move {before after : Progress} {new : List Exchange} (move : Move setting run goal before after new)
    {due : Nat} (hd : after.due? = some due) :
  run.now ≤ due
  := by
  have opens {progress : Progress} (opens : setting.Opens run.now progress) (hd : progress.due? = some due) :
      run.now ≤ due := by
    cases opens with
    | waiting | finished => cases hd
    | calling serving =>
      cases hd
      apply Nat.le_add_right
  cases move with
  | begun => exact opens (setting.opens_begin run goal) hd
  | proceeded ended unfailed => exact opens (setting.opens_proceed run _ goal) hd
  | blocked | unserved | succeeded | failed => cases hd
  | delayed =>
    cases hd
    apply Nat.le_add_right
  | @resumed request attempt since =>
    obtain ⟨_, -, hc⟩ | ⟨_, -, hc⟩ := setting.call_cases run.now request (attempt + 1) since
    · rw [hc] at hd
      cases hd
      apply Nat.le_add_right
    · rw [hc] at hd
      cases hd

theorem moves (punctual : run.Punctual) {before after : Progress} {new : List Exchange}
    (moves : Moves setting run next goal before after new) :
  next.Punctual
  := by
  intro other progress hp due hd
  rw [moves.now]
  by_cases same : other = goal
  · subst same
    obtain rfl := Option.some.inj (moves.is.symm.trans hp)
    exact le_of_move moves.move hd
  · exact punctual.le_of_kept (moves.others other same).1 hp hd

/-- No time is lost when it passes until something is due. -/
theorem wait (punctual : run.Punctual) {first : Nat} (earliest : run.earliest? = some first) :
  ({ run with now := max run.now first } : Run σ).Punctual
  := by
  intro goal progress hp due hd
  rw [progress?_wait] at hp
  apply Nat.max_le_of_le_of_le (punctual goal progress hp due hd)
  apply (List.min?_eq_some_iff.mp earliest).2
  apply List.mem_filterMap.mpr
  refine ⟨progress, ?_, hd⟩
  cases goal with
  | update id => exact List.mem_append_left _ ((Table.mem_values _ _).mpr ⟨id, hp⟩)
  | delete id => exact List.mem_append_right _ ((Table.mem_values _ _).mpr ⟨id, hp⟩)

theorem requested (setting : Setting σ) (world : σ) :
  (setting.requested world).Punctual
  := by
  intro goal progress hp due hd
  rw [Setting.progress?_requested] at hp
  split at hp
  · cases hp
    cases hd
  · cases hp

end Punctual

/-- What holds at first and is kept by steps, and by waiting until something is due, holds of the driven run. -/
theorem drive_invariant (holds : Run σ → Prop) (roots : List Goal)
    (step : ∀ run next goal, holds run → run.step? setting goal = some next → holds next)
    (wait : ∀ run due, holds run → run.earliest? = some due → holds { run with now := max run.now due })
    (fuel : Nat) {first : Run σ} (h : holds first) :
  holds (first.drive setting roots fuel)
  := by
  induction fuel generalizing first with
  | zero => exact h
  | succ fuel ih =>
    rw [drive]
    split
    · next next found =>
      obtain ⟨goal, hs⟩ := step?_of_firstStep? found
      exact ih (step _ _ _ h hs)
    · split
      · next due earliest => exact ih (wait _ _ h earliest)
      · exact h

/-- In a run that loses no time, calls follow one another just when the delays have passed. -/
structure Prompt (setting : Setting σ) (run : Run σ) : Prop where
  sound : run.Sound setting
  punctual : run.Punctual
  courses : run.Each (Course setting (· = ·))

namespace Prompt

theorem step (prompt : run.Prompt setting) (h : run.step? setting goal = some next) :
  next.Prompt setting
  := by
  obtain ⟨before, after, new, moves⟩ := prompt.sound.moves h
  refine ⟨(prompt.sound.step h).1, prompt.punctual.moves moves, ?_⟩
  apply prompt.courses.moves .ready prompt.sound moves
  intro course
  apply course.move meeting_eq moves.move
  intro due hd
  exact Nat.le_antisymm (moves.due due hd) (prompt.punctual goal before moves.was due hd)

theorem drive (prompt : run.Prompt setting) (roots : List Goal) (fuel : Nat) :
  (run.drive setting roots fuel).Prompt setting
  := by
  apply drive_invariant fun run => run.Prompt setting
  · intro run next goal prompt h
    exact prompt.step h
  · intro run due prompt earliest
    exact ⟨(prompt.sound.wait _).1, prompt.punctual.wait earliest, prompt.courses.wait .ready prompt.sound _⟩
  · exact prompt

theorem requested (setting : Setting σ) (world : σ) :
  (setting.requested world).Prompt setting
  := ⟨setting.sound_requested world, .requested setting world, .requested .ready setting world⟩

end Prompt

end Run

end Reconcile
