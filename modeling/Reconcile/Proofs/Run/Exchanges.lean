import Mathlib.Tactic.Common
import Reconcile.Proofs.Run.Soundness

/-!
# Calls and answers

A run has no answer that was not given by a provider, and none to a request that no provider was
called with.
-/

namespace Reconcile.Run

variable {σ : Type} {setting : Setting σ} {run next : Run σ}

/-- An answer was given to a request that a provider was called with. -/
def Answered (setting : Setting σ) (run : Run σ) (exchange : Exchange) : Prop :=
  (∃ call ∈ run.calls, call.request = exchange.request)
    ∧ ∃ provider world, setting.providers.get exchange.request.type = .ok provider
        ∧ (provider.answer exchange.request world).1 = exchange.answer

/-- Every answer was given to a request that a provider was called with, and so will be those that are
waited for. -/
structure Faithful (setting : Setting σ) (run : Run σ) : Prop where
  answered : ∀ exchange ∈ run.exchanges, run.Answered setting exchange
  called : ∀ goal request attempt since due, run.progress? goal = some (.calling request attempt since due) →
    ∃ call ∈ run.calls, call.request = request

theorem Faithful.step (faithful : run.Faithful setting) {goal : Goal} (h : run.step? setting goal = some next) :
  next.Faithful setting
  := by
  obtain ⟨before, after, new, hb, move, entered, exchanges⟩ := step?_spec h
  have calls {request : Request} (h : ∃ call ∈ run.calls, call.request = request) :
      ∃ call ∈ next.calls, call.request = request := by
    obtain ⟨call, hc, he⟩ := h
    exact ⟨call, entered.calls_eq ▸ List.mem_append_left _ hc, he⟩
  constructor
  · intro exchange hm
    rw [exchanges] at hm
    obtain hm | hm := List.mem_append.mp hm
    · obtain ⟨called, answer⟩ := faithful.answered exchange hm
      exact ⟨calls called, answer⟩
    · have answered {request : Request} {attempt since due : Nat} {provider : Provider σ} {answer : Answer}
          (hb : run.progress? goal = some (.calling request attempt since due))
          (serving : setting.providers.get request.type = .ok provider)
          (answer_eq : (provider.answer request run.world).1 = answer) :
          next.Answered setting ⟨request, answer⟩ :=
        ⟨calls (faithful.called _ _ _ _ _ hb), provider, run.world, serving, answer_eq⟩
      cases move with
      | succeeded serving answer =>
        obtain rfl := List.mem_singleton.mp hm
        exact answered hb serving answer
      | delayed serving answer again =>
        obtain rfl := List.mem_singleton.mp hm
        exact answered hb serving answer
      | failed serving answer last =>
        obtain rfl := List.mem_singleton.mp hm
        exact answered hb serving answer
      | _ => cases hm
  · intro other request attempt since due hp
    rw [entered.progress?_eq] at hp
    split at hp
    · obtain rfl := Option.some.inj hp
      exact ⟨⟨run.now, request⟩, entered.calls_eq ▸ List.mem_append_right _ List.mem_cons_self, rfl⟩
    · cases hq : run.progress? other with
      | some progress =>
        rw [hq] at hp
        obtain rfl := Option.some.inj hp
        exact calls (faithful.called _ _ _ _ _ hq)
      | none =>
        rw [hq, Option.none_or] at hp
        split at hp
        · cases hp
        · cases hp

/-- Asking for tasks asks no provider. -/
theorem Faithful.requests (faithful : run.Faithful setting) (goals : List Goal) :
  (goals.foldl request run).Faithful setting
  := by
  obtain ⟨updates, deletions, he⟩ := requests_eq run goals
  constructor
  · intro exchange hm
    rw [he] at hm
    obtain ⟨called, answer⟩ := faithful.answered exchange hm
    refine ⟨?_, answer⟩
    rw [he]
    apply called
  · intro goal request attempt since due hp
    rw [progress?_requests] at hp
    cases hq : run.progress? goal with
    | some progress =>
      rw [hq] at hp
      obtain rfl := Option.some.inj hp
      rw [he]
      exact faithful.called _ _ _ _ _ hq
    | none =>
      rw [hq, Option.none_or] at hp
      split at hp
      · cases hp
      · cases hp

theorem faithful_requested (setting : Setting σ) (world : σ) :
  (setting.requested world).Faithful setting
  := by
  apply Faithful.requests
  constructor
  · nofun
  · intro goal
    cases goal with
    | update id => nofun
    | delete id => nofun

theorem Faithful.wait (faithful : run.Faithful setting) (later : Nat) :
  ({ run with now := later } : Run σ).Faithful setting
  := ⟨faithful.answered, fun goal => by simpa using faithful.called goal⟩

theorem Leads.faithful {first : Run σ} {count : Nat} (leads : Leads setting first count run)
    (faithful : first.Faithful setting) :
  run.Faithful setting
  := by
  apply leads.invariant fun run => run.Faithful setting
  · intro run next goal faithful h
    apply faithful.step h
  · intro run later faithful
    exact faithful.wait later
  · apply faithful

/-- A provider answers to the request that is made for a prepared resource. -/
theorem Faithful.prepared_of_exchange (faithful : run.Faithful setting) (sound : run.Sound setting)
    {exchange : Exchange} (hm : exchange ∈ run.exchanges) {id : String}
    (served : exchange.request.goal = .update id) :
  ∃ resource properties decision, setting.desired.resources.get? id = some resource
    ∧ run.Prepared setting id resource properties decision
    ∧ exchange.request = setting.requestFor id resource properties
  := by
  obtain ⟨⟨call, hc, he⟩, -⟩ := faithful.answered exchange hm
  rw [← he] at served ⊢
  obtain ⟨resource, properties, decision, declared, prepared, -, requested⟩ := sound.calls call hc id served
  exact ⟨resource, properties, decision, declared, prepared, requested⟩

/-- What the task of a resource is answered is answered to the request that is made for it when it has been
prepared. -/
theorem Faithful.exchange_of_answer (faithful : run.Faithful setting) (sound : run.Sound setting) {id : String}
    {resource : Resource} (declared : setting.desired.resources.get? id = some resource) {properties : Json}
    {decision : Decision} (prepared : run.Prepared setting id resource properties decision) {answer : Answer}
    (h : answer ∈ run.answers (.update id)) :
  ⟨setting.requestFor id resource properties, answer⟩ ∈ run.exchanges
  := by
  obtain ⟨⟨request, answer⟩, hm, rfl⟩ := List.mem_map.mp h
  obtain ⟨hm, served⟩ := List.mem_filter.mp hm
  obtain ⟨resource', properties', _, declared', prepared', requested⟩ :=
    faithful.prepared_of_exchange sound hm (of_decide_eq_true served)
  obtain rfl := Option.some.inj (declared.symm.trans declared')
  obtain ⟨rfl, -⟩ := prepared.unique prepared'
  rw [← requested]
  exact hm

end Reconcile.Run
