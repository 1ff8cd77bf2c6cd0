import Mathlib.Tactic.Common
import Reconcile.Proofs.Run.Transcript

/-!
# Regular providers

Providers are regular when the answer to an attempt depends on the request and on the number of
attempts before, and on nothing else that has happened.  What one request is answered then follows
one sequence of replies in every run, so that two runs which keep asking come to the same success.
-/

namespace Reconcile

variable {σ : Type}

open Classical in
/-- The answers to a request, in order. -/
noncomputable def Request.answers (request : Request) (exchanges : List Exchange) : List Answer :=
  (exchanges.filter fun exchange => exchange.request = request).map (·.answer)

/-- However a world has come about from the first one, providers answer in it to every request what is replied to it
after as many attempts. -/
def Providers.Regular (providers : Providers σ) (first : σ) (reply : Request → Nat → Answer) : Prop :=
  ∀ exchanges world, Transcript providers first exchanges world →
    ∀ request provider, providers.get request.type = .ok provider →
      (provider.answer request world).1 = reply request (request.answers exchanges).length

/-- Answers are the first of a sequence of replies. -/
def Follows (replies : Nat → Answer) (answers : List Answer) : Prop :=
  ∀ n answer, answers[n]? = some answer → answer = replies n

/-! ### Sequences of replies -/

namespace Follows

variable {replies : Nat → Answer} {answers refusals refusals' : List Answer} {reply reply' : Reply}

theorem nil :
  Follows replies []
  := nofun

theorem concat (follows : Follows replies answers) :
  Follows replies (answers ++ [replies answers.length])
  := by
  intro n answer h
  rw [List.getElem?_append] at h
  split at h
  · exact follows n answer h
  · next beyond =>
    obtain ⟨hn, rfl⟩ := List.getElem?_eq_some_iff.mp h
    have last : n = answers.length := by
      rw [List.length_singleton] at hn
      omega
    simp [last]

theorem of_append {more : List Answer} (follows : Follows replies (answers ++ more)) :
  Follows replies answers
  := by
  intro n answer h
  apply follows n answer
  obtain ⟨hn, -⟩ := List.getElem?_eq_some_iff.mp h
  rw [List.getElem?_append_left hn, h]

theorem success (follows : Follows replies (refusals ++ [.ok reply])) :
  replies refusals.length = .ok reply
  := by
  symm
  apply follows
  rw [List.getElem?_concat_length]

/-- Nobody is refused more often than before the first success. -/
theorem length_le (follows : Follows replies (refusals ++ [.ok reply])) (follows' : Follows replies refusals')
    (refused' : Refusals refusals') :
  refusals'.length ≤ refusals.length
  := by
  by_contra more
  have beyond : refusals.length < refusals'.length := Nat.lt_of_not_le more
  obtain ⟨messages, refused⟩ := refused' _ (List.getElem_mem beyond)
  have same := follows' _ _ (List.getElem?_eq_getElem beyond)
  cases refused.symm.trans (same.trans follows.success)

/-- There is only one first success. -/
theorem unique (follows : Follows replies (refusals ++ [.ok reply])) (refused : Refusals refusals)
    (follows' : Follows replies (refusals' ++ [.ok reply'])) (refused' : Refusals refusals') :
  reply' = reply
  := by
  have same : refusals'.length = refusals.length :=
    Nat.le_antisymm (follows.length_le follows'.of_append refused') (follows'.length_le follows.of_append refused)
  have success := follows'.success
  rw [same, follows.success] at success
  exact (Except.ok.inj success).symm

end Follows

/-! ### Regular providers -/

/-- What regular providers have answered to a request follows the replies to it. -/
theorem Transcript.follows {providers : Providers σ} {first world : σ} {reply : Request → Nat → Answer}
    (regular : providers.Regular first reply) {exchanges : List Exchange}
    (transcript : Transcript providers first exchanges world) (request : Request) :
  Follows (reply request) (request.answers exchanges)
  := by
  induction transcript with
  | nil => exact .nil
  | @concat exchanges world asked provider before serving ih =>
    unfold Request.answers at ih ⊢
    rw [List.filter_append, List.map_append]
    by_cases same : asked = request
    · subst same
      have replied := regular exchanges world before asked provider serving
      unfold Request.answers at replied
      simpa [replied] using ih.concat
    · simpa [same] using ih

/-- When all that the task of a goal was answered are answers to one request, they follow the replies to it. -/
theorem Run.Traces.follows {setting : Setting σ} {run : Run σ} {first : σ} {reply : Request → Nat → Answer}
    (traces : run.Traces setting first) (regular : setting.providers.Regular first reply) {request : Request}
    (only : ∀ exchange ∈ run.exchanges, exchange.request.goal = request.goal → exchange.request = request) :
  Follows (reply request) (run.answers request.goal)
  := by
  have same : run.answers request.goal = request.answers run.exchanges := by
    unfold Run.answers Request.answers
    congr 1
    apply List.filter_congr
    intro exchange hm
    apply decide_eq_decide.mpr
    constructor
    · exact only exchange hm
    · intro he
      rw [he]
  rw [same]
  exact Transcript.follows regular traces request

end Reconcile
