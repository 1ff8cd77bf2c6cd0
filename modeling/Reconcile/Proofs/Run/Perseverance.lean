import Mathlib.Tactic.Common
import Reconcile.Proofs.Run.Attempts
import Reconcile.Proofs.Run.Pauses
import Reconcile.Proofs.Run.Regularity
import Reconcile.Proofs.Run.Termination

/-!
# Perseverance

A task that has called a provider comes to its end, whatever the other tasks do.  It calls until the first success, or
until its attempts have been used up, and takes no other answers than those into account.
-/

namespace Reconcile

variable {σ : Type} {setting : Setting σ}

/-- The first success in a sequence of replies is at a position, counted from one. -/
def FirstSuccess (replies : Nat → Answer) (position : Nat) : Prop :=
  ∃ refusals reply, position = refusals + 1 ∧ replies refusals = .ok reply
    ∧ ∀ n < refusals, ∃ messages, replies n = .error messages

namespace Follows

variable {replies : Nat → Answer} {refusals : List Answer}

theorem refused (follows : Follows replies refusals) (refused : Refusals refusals) :
  ∀ n < refusals.length, ∃ messages, replies n = .error messages
  := by
  intro n hn
  rw [← follows n _ (List.getElem?_eq_getElem hn)]
  exact refused _ (List.getElem_mem hn)

theorem last {answer : Answer} (follows : Follows replies (refusals ++ [answer])) :
  replies refusals.length = answer
  := by
  symm
  apply follows
  rw [List.getElem?_concat_length]

end Follows

/-- There is no success before the first one. -/
theorem FirstSuccess.lt {replies : Nat → Answer} {position refusals : Nat} (first : FirstSuccess replies position)
    (refused : ∀ n < refusals, ∃ messages, replies n = .error messages) :
  refusals < position
  := by
  obtain ⟨before, reply, rfl, success, -⟩ := first
  apply Nat.lt_succ_of_le
  by_contra more
  obtain ⟨messages, failure⟩ := refused before (Nat.lt_of_not_le more)
  cases success.symm.trans failure

theorem FirstSuccess.unique {replies : Nat → Answer} {position position' : Nat} (first : FirstSuccess replies position)
    (first' : FirstSuccess replies position') :
  position = position'
  := by
  obtain ⟨before, _, rfl, _, refused⟩ := id first
  obtain ⟨before', _, rfl, _, refused'⟩ := id first'
  have lt := first.lt refused'
  have lt' := first'.lt refused
  omega

namespace Run

variable {run next : Run σ} {goal : Goal}

/-! ### Operations that have come to their end -/

/-- How an operation fares that providers are asked for in a number of calls, of which there may be `bound`, when
what they answer is the beginning of some replies. -/
structure Fares (setting : Setting σ) (request : Request) (bound : Nat) (replies : Nat → Answer) (calls : Nat)
    (result : Except StackError Outcome) : Prop where
  /-- It takes as many calls as it must, but no more than it may, and succeeds if these are enough. -/
  succeeding : ∀ position, FirstSuccess replies position →
    calls = min position bound ∧ (result.isOk ↔ position ≤ bound)
  /-- Without a success all calls are made that may be. -/
  failing : (∀ n, ∃ messages, replies n = .error messages) → calls = bound ∧ ¬ result.isOk
  /-- A success is what the last call was answered. -/
  outcome : ∀ outcome, result = .ok outcome →
    ∃ reply, replies (calls - 1) = .ok reply ∧ outcome = setting.outcome reply request
  /-- A failure reports the number of calls, and what the last one was answered. -/
  error : ∀ error, result = .error error → ∃ messages, replies (calls - 1) = .error messages
    ∧ error = .providerFailed request.logicalId request.kind calls (String.intercalate ": " messages)

/-- The task of a goal has asked a provider for one operation, all calls for it have been answered, and it fares as
the answers make it. -/
def Undertakes (setting : Setting σ) (run : Run σ) (goal : Goal) (result : Except StackError Outcome) : Prop :=
  ∃ request provider, setting.providers.get request.type = .ok provider
    ∧ run.asked goal = List.replicate (run.asked goal).length request
    ∧ (run.answers goal).length = (run.asked goal).length
    ∧ ∀ replies, Follows replies (run.answers goal) →
      Fares setting request (setting.tries provider request.kind) replies (run.asked goal).length result

theorem fares_succeeded {replies : Nat → Answer} {refusals : List Answer} {request : Request} {reply : Reply}
    {bound : Nat} (follows : Follows replies (refusals ++ [.ok reply])) (refused : Refusals refusals)
    (allowed : refusals.length < bound) :
  Fares setting request bound replies (refusals.length + 1) (.ok (setting.outcome reply request))
  := by
  have success : replies refusals.length = .ok reply := follows.last
  constructor
  · intro position first
    obtain rfl := first.unique ⟨refusals.length, reply, rfl, success, follows.of_append.refused refused⟩
    exact ⟨(Nat.min_eq_left allowed).symm, fun _ => allowed, fun _ => rfl⟩
  · intro failing
    obtain ⟨messages, failure⟩ := failing refusals.length
    cases success.symm.trans failure
  · rintro _ ⟨⟩
    exact ⟨reply, success, rfl⟩
  · nofun

theorem fares_exhausted {replies : Nat → Answer} {refusals : List Answer} {request : Request}
    {messages : List String} (follows : Follows replies (refusals ++ [.error messages]))
    (refused : Refusals refusals) :
  Fares setting request (refusals.length + 1) replies (refusals.length + 1)
    (.error (.providerFailed request.logicalId request.kind (refusals.length + 1)
      (String.intercalate ": " messages)))
  := by
  have failure : replies refusals.length = .error messages := follows.last
  constructor
  · intro position first
    have beyond := first.lt (follows.refused (refused.concat messages))
    rw [List.length_append, List.length_singleton] at beyond
    refine ⟨(Nat.min_eq_right beyond.le).symm, nofun, ?_⟩
    intro within
    exact absurd within (Nat.not_le_of_lt beyond)
  · intro _
    exact ⟨rfl, nofun⟩
  · nofun
  · rintro _ ⟨⟩
    exact ⟨messages, failure, rfl⟩

/-- A task that has finished after it called a provider has undertaken one operation. -/
theorem Tallied.undertakes {Meets : Nat → Nat → Prop} (tallied : run.Tallied setting)
    (courses : run.Each (Course setting Meets)) {result : Except StackError Outcome}
    (finished : run.result? goal = some result) (called : run.asked goal ≠ []) :
  run.Undertakes setting goal result
  := by
  have hp := result?_eq_some.mp finished
  have tally := tallied.tasks goal _ hp
  have course := courses.tasks goal _ hp
  have requests : run.asked goal = (run.callsOf goal).map (·.request) := rfl
  have answered := tally.length_eq
  unfold Undertakes
  generalize run.asked goal = asked at *
  generalize run.answers goal = answers at *
  cases tally with
  | untried => exact absurd rfl called
  | @succeeded request refusals reply provider serving refused allowed =>
    refine ⟨request, provider, serving, by rw [List.length_replicate], answered, ?_⟩
    intro replies follows
    rw [List.length_replicate]
    exact fares_succeeded follows refused allowed
  | @exhausted request refusals messages error provider serving refused spent =>
    refine ⟨request, provider, serving, by rw [List.length_replicate], answered, ?_⟩
    intro replies follows
    have length : (run.callsOf goal).length = refusals.length + 1 := by
      rw [← List.length_map (·.request), ← requests, List.length_replicate]
    obtain ⟨earlier, last, calls⟩ : ∃ earlier last, run.callsOf goal = earlier ++ [last] := by
      obtain none | ⟨earlier, last, calls⟩ := List.eq_nil_or_concat' (run.callsOf goal)
      · simp [none] at length
      · exact ⟨earlier, last, calls⟩
    have hl : last.request = request := by
      have member : last.request ∈ (run.callsOf goal).map (·.request) :=
        List.mem_map_of_mem (calls ▸ List.mem_append_right _ List.mem_cons_self)
      rw [← requests] at member
      exact List.eq_of_mem_replicate member
    have reported := course.error_eq (List.ne_nil_of_length_eq_add_one length) (calls ▸ List.getLast?_concat)
      List.getLast?_concat
    rw [hl, length] at reported
    rw [List.length_replicate, reported, ← spent]
    exact fares_exhausted follows refused

/-! ### Operations come to their end -/

/-- A task that calls a provider waits for no other. -/
theorem Move.waitsOn_eq_nil {before after : Progress} {new : List Exchange} (move : Move setting run goal before after new)
    (called : before.due?.isSome) :
  after.waitsOn = []
  := by
  cases move with
  | begun | blocked | proceeded => cases called
  | unserved | succeeded | delayed | failed => rfl
  | @resumed request attempt since due =>
    obtain ⟨_, -, hc⟩ | ⟨_, -, hc⟩ := setting.call_cases run.now request (attempt + 1) since
    · rw [hc]
      rfl
    · rw [hc]
      rfl

theorem Tally.rests {requests : List Request} {answers : List Answer} {progress : Progress}
    (tally : Tally setting requests answers progress) :
  setting.Rests progress
  := by
  cases tally with
  | @resting request refusals _ provider _ _ serving refused allowed =>
    apply Nat.lt_of_lt_of_le allowed
    unfold Setting.tries
    split
    · apply Nat.le_refl
    · apply Nat.le_max_right
  | _ => trivial

/-- A task that has called a provider is calling or resting, or has finished. -/
theorem Tally.called {requests : List Request} {answers : List Answer} {progress : Progress}
    (tally : Tally setting requests answers progress) (called : requests ≠ []) :
  (∃ result, progress = .finished result) ∨ ∃ due, progress.due? = some due
  := by
  cases tally with
  | ready | waiting => exact absurd rfl called
  | calling | resting => exact .inr ⟨_, rfl⟩
  | untried | succeeded | exhausted => exact .inl ⟨_, rfl⟩

/-- Once a task has called a provider it comes to its end by its own steps alone, if it is given the time. -/
theorem exists_end (sound : run.Sound setting) (tallied : run.Tallied setting) (called : run.asked goal ≠ []) :
  ∃ count last, Leads setting run count last ∧ (last.result? goal).isSome
    ∧ ∀ other ≠ goal, last.progress? other = run.progress? other
  := by
  obtain ⟨progress, hp⟩ : ∃ progress, run.progress? goal = some progress := by
    apply Option.ne_none_iff_exists'.mp
    intro absent
    exact called (tallied.unasked goal absent)
  induction hr : setting.rank progress using Nat.strong_induction_on generalizing run progress with
  | h rank ih =>
    obtain ⟨result, rfl⟩ | ⟨due, hd⟩ := (tallied.tasks goal progress hp).called called
    · refine ⟨0, run, .here, ?_, fun _ _ => rfl⟩
      rw [result?_eq_some.mpr hp]
      rfl
    · -- When its time has come the task takes a step, which lowers its rank.
      let late : Run σ := { run with now := max run.now due }
      have sound' : late.Sound setting := (sound.wait _).1
      have tallied' : late.Tallied setting := tallied.wait sound _
      have hp' : late.progress? goal = some progress := by rw [progress?_wait, hp]
      obtain ⟨next, h⟩ : ∃ next, late.step? setting goal = some next :=
        exists_step?_of_due hp' hd (Nat.le_max_right _ _)
      obtain ⟨before, after, new, was, move, entered, -⟩ := step?_spec h
      obtain rfl := Option.some.inj (hp'.symm.trans was)
      have is : next.progress? goal = some after := by rw [entered.progress?_eq, if_pos rfl]
      obtain ⟨-, lower⟩ := Setting.advance_move (tallied'.tasks goal progress hp').rests move
      have called' : next.asked goal ≠ [] := by
        have more : ∃ new, next.asked goal = run.asked goal ++ new := by
          unfold asked
          rw [entered.calls_eq, List.filter_append, List.map_append]
          exact ⟨_, rfl⟩
        obtain ⟨new, more⟩ := more
        rw [more]
        exact List.append_ne_nil_of_left_ne_nil called new
      obtain ⟨count, last, leads, ended, others⟩ :=
        ih _ (hr ▸ lower) (sound'.step h).1 (tallied'.step sound' h) called' after is rfl
      refine ⟨_, last, ((Leads.here.wait (Nat.le_max_left _ _)).step h).trans leads, ended, ?_⟩
      intro other apart
      have alone : after.waitsOn = [] := move.waitsOn_eq_nil (by rw [hd]; rfl)
      rw [others other apart, entered.progress?_eq, if_neg apart, alone, progress?_wait]
      simp

end Run

end Reconcile
