import Mathlib.Tactic.Common
import Reconcile.Proofs.Run.Exchanges
import Reconcile.Proofs.Run.Removal

/-!
# What a run makes of the world

The world changes only when a provider answers, so that the answers of a run tell how its world came
about.  A task takes credit for a successful answer: what the provider replied is what became of
the resource.  A recorded resource is deleted as the resource of its type that it was recorded to be.
-/

namespace Reconcile

variable {σ : Type}

/-- In a world, providers have given some answers one after the other, and each has changed it. -/
inductive Transcript (providers : Providers σ) (first : σ) : List Exchange → σ → Prop where
  | nil : Transcript providers first [] first
  | concat {exchanges : List Exchange} {world : σ} {request : Request} {provider : Provider σ}
      (before : Transcript providers first exchanges world)
      (serving : providers.get request.type = .ok provider) :
    Transcript providers first (exchanges ++ [⟨request, (provider.answer request world).1⟩])
      (provider.answer request world).2

namespace Run

variable {setting : Setting σ} {run next : Run σ} {world : σ}

/-! ### Worlds -/

/-- Asking for tasks gives no answers and leaves the world alone. -/
theorem requests_frame (run : Run σ) (goals : List Goal) :
  (goals.foldl request run).world = run.world ∧ (goals.foldl request run).exchanges = run.exchanges
  := by
  obtain ⟨_, _, he⟩ := run.requests_eq goals
  rw [he]
  exact ⟨rfl, rfl⟩

@[simp]
theorem world_enter (run : Run σ) (goal : Goal) (progress : Progress) :
  (run.enter goal progress).world = run.world
  := by
  have framed : ((progress.waitsOn.map goal.withId).foldl request (run.set goal progress)).world = run.world := by
    rw [(requests_frame _ _).1]
    cases goal with
    | update id => rfl
    | delete id => rfl
  unfold enter
  cases progress with
  | _ => exact framed

@[simp]
theorem world_requested (setting : Setting σ) (world : σ) :
  (setting.requested world).world = world
  := (requests_frame _ _).1

@[simp]
theorem exchanges_requested (setting : Setting σ) (world : σ) :
  (setting.requested world).exchanges = []
  := (requests_frame _ _).2

@[simp]
theorem world_removing (run : Run σ) (ids : List String) :
  (run.removing ids).world = run.world
  := (requests_frame _ _).1

@[simp]
theorem exchanges_removing (run : Run σ) (ids : List String) :
  (run.removing ids).exchanges = run.exchanges
  := (requests_frame _ _).2

/-- Either a step leaves the world alone, or a provider answers and changes it. -/
theorem world_step {goal : Goal} (h : run.step? setting goal = some next) :
  next.exchanges = run.exchanges ∧ next.world = run.world
    ∨ ∃ request provider, setting.providers.get request.type = .ok provider
        ∧ next.exchanges = run.exchanges ++ [⟨request, (provider.answer request run.world).1⟩]
        ∧ next.world = (provider.answer request run.world).2
  := by
  have entered (after : Progress) (he : run.enter goal after = next) :
      next.exchanges = run.exchanges ∧ next.world = run.world := by
    rw [← he]
    exact ⟨(run.entered_enter goal after).2, run.world_enter goal after⟩
  unfold step? at h
  split at h
  · cases h
  · cases h
  · exact .inl (entered _ (Option.some.inj h))
  · split at h
    · split at h
      · exact .inl (entered _ (Option.some.inj h))
      · exact .inl (entered _ (Option.some.inj h))
    · cases h
  · next request attempt since due calling =>
    split at h
    · obtain rfl := Option.some.inj h
      unfold answered at entered ⊢
      split at entered
      · exact .inl (entered _ rfl)
      · next provider serving =>
        right
        refine ⟨request, provider, serving, ?_⟩
        dsimp only
        split
        · next reply answered =>
          rw [answered]
          exact ⟨(entered_enter _ _ _).2, world_enter _ _ _⟩
        · next messages answered =>
          rw [answered]
          split
          · exact ⟨(entered_enter _ _ _).2, world_enter _ _ _⟩
          · exact ⟨(entered_enter _ _ _).2, world_enter _ _ _⟩
    · cases h
  · split at h
    · exact .inl (entered _ (Option.some.inj h))
    · cases h

/-- The world is as the answers of the run have left it. -/
def Traces (setting : Setting σ) (first : σ) (run : Run σ) : Prop :=
  Transcript setting.providers first run.exchanges run.world

theorem Traces.step (traces : run.Traces setting world) {goal : Goal} (h : run.step? setting goal = some next) :
  next.Traces setting world
  := by
  obtain ⟨exchanges, same⟩ | ⟨request, provider, serving, exchanges, changed⟩ := world_step h
  · rw [Traces, exchanges, same]
    exact traces
  · rw [Traces, exchanges, changed]
    exact .concat traces serving

theorem traces_requested (setting : Setting σ) (world : σ) :
  (setting.requested world).Traces setting world
  := by
  rw [Traces, world_requested, exchanges_requested]
  exact .nil

theorem Traces.removing (traces : run.Traces setting world) (ids : List String) :
  (run.removing ids).Traces setting world
  := by
  rw [Traces, world_removing, exchanges_removing]
  apply traces

/-! ### Credit for answers -/

/-- What a provider replied is what became of the resource. -/
def Credits (setting : Setting σ) (run : Run σ) : Prop :=
  ∀ request reply, ⟨request, .ok reply⟩ ∈ run.exchanges →
    run.result? request.goal = some (.ok (setting.outcome reply request))

theorem credits_requested (setting : Setting σ) (world : σ) :
  (setting.requested world).Credits setting
  := by
  intro request reply hm
  rw [exchanges_requested] at hm
  cases hm

theorem Credits.step (credits : run.Credits setting) (sound : run.Sound setting) {goal : Goal}
    (h : run.step? setting goal = some next) :
  next.Credits setting
  := by
  obtain ⟨before, after, new, hb, move, entered, exchanges⟩ := step?_spec h
  intro request reply hm
  rw [exchanges] at hm
  obtain hm | hm := List.mem_append.mp hm
  · apply result?_step h (credits request reply hm)
  · have own := sound.own_of_move hb move _ hm
    cases move with
    | succeeded serving answer =>
      cases List.mem_singleton.mp hm
      rw [result?_eq_some, entered.progress?_eq, if_pos own]
    | delayed serving answer again => cases List.mem_singleton.mp hm
    | failed serving answer last => cases List.mem_singleton.mp hm
    | _ => cases hm

theorem Credits.wait (credits : run.Credits setting) (later : Nat) :
  ({ run with now := later } : Run σ).Credits setting
  := by
  intro request reply hm
  rw [result?_wait]
  apply credits request reply hm

theorem kept_removing (run : Run σ) (ids : List String) (goal : Goal) :
  Kept run (run.removing ids) goal
  := by
  have same : ({ run with doomed := ids } : Run σ).progress? goal = run.progress? goal := by
    cases goal with
    | update id => rfl
    | delete id => rfl
  have kept := kept_requests { run with doomed := ids } (ids.map Goal.delete) goal
  rwa [Kept, same] at kept

theorem Credits.removing (credits : run.Credits setting) (ids : List String) :
  (run.removing ids).Credits setting
  := by
  intro request reply hm
  rw [exchanges_removing] at hm
  rw [(run.kept_removing ids request.goal).result?]
  apply credits request reply hm

/-! ### Requests to delete -/

/-- A request is to delete a resource as it is recorded. -/
def Aims (setting : Setting σ) (id : String) (request : Request) : Prop :=
  ∃ previous, setting.previous.resources.get? id = some previous ∧ request = .delete id previous.type previous

/-- The task that removes a resource makes only such a request. -/
def Targets (setting : Setting σ) (id : String) : Progress → Prop
  | .calling request _ _ _ | .resting request _ _ _ => Aims setting id request
  | _ => True

/-- Providers are asked to delete resources as they are recorded. -/
structure Addressed (setting : Setting σ) (run : Run σ) : Prop where
  tasks : ∀ id progress, run.progress? (.delete id) = some progress → Targets setting id progress
  asked : ∀ exchange ∈ run.exchanges, ∀ id, exchange.request.goal = .delete id → Aims setting id exchange.request

variable {id : String}

theorem Aims.call {request : Request} (aims : Aims setting id request) (now attempt since : Nat) :
  Targets setting id (setting.call now request attempt since)
  := by
  obtain ⟨provider, -, hc⟩ | ⟨error, -, hc⟩ := setting.call_cases now request attempt since
  · rw [hc]
    exact aims
  · rw [hc]
    trivial

theorem Targets.move {before after : Progress} {new : List Exchange} (targets : Targets setting id before)
    (move : Move setting run (.delete id) before after new) :
  Targets setting id after ∧ ∀ exchange ∈ new, Aims setting id exchange.request
  := by
  have asked (request : Request) (answer : Answer) (aims : Aims setting id request) :
      ∀ exchange ∈ [Exchange.mk request answer], Aims setting id exchange.request := by
    intro exchange hm
    rw [List.mem_singleton.mp hm]
    exact aims
  cases move with
  | begun =>
    refine ⟨?_, nofun⟩
    unfold Setting.begin
    dsimp only
    split
    · split
      · trivial
      · trivial
      · trivial
    · trivial
  | proceeded =>
    refine ⟨?_, nofun⟩
    unfold Setting.proceed
    dsimp only
    split
    · trivial
    · next previous recorded => exact Aims.call ⟨previous, recorded, rfl⟩ _ _ _
  | blocked => exact ⟨trivial, nofun⟩
  | unserved => exact ⟨trivial, nofun⟩
  | succeeded => exact ⟨trivial, asked _ _ targets⟩
  | delayed => exact ⟨targets, asked _ _ targets⟩
  | failed => exact ⟨trivial, asked _ _ targets⟩
  | resumed => exact ⟨Aims.call targets _ _ _, nofun⟩

theorem Addressed.targets_of_kept (addressed : run.Addressed setting) (kept : Kept run next (.delete id))
    {progress : Progress} (hp : next.progress? (.delete id) = some progress) :
  Targets setting id progress
  := by
  obtain h | ⟨-, h⟩ := kept
  · apply addressed.tasks id progress (h.symm.trans hp)
  · obtain rfl := Option.some.inj (h.symm.trans hp)
    trivial

theorem addressed_requested (setting : Setting σ) (world : σ) :
  (setting.requested world).Addressed setting
  := by
  constructor
  · intro id progress hp
    rw [setting.no_deletion_requested] at hp
    cases hp
  · rw [exchanges_requested]
    apply List.forall_mem_nil

theorem Addressed.step (addressed : run.Addressed setting) (sound : run.Sound setting) {goal : Goal}
    (h : run.step? setting goal = some next) :
  next.Addressed setting
  := by
  obtain ⟨before, after, new, hb, move, entered, exchanges⟩ := step?_spec h
  constructor
  · intro id progress hp
    by_cases hg : Goal.delete id = goal
    · subst hg
      rw [entered.progress?_eq, if_pos rfl] at hp
      obtain rfl := Option.some.inj hp
      apply ((addressed.tasks id before hb).move move).1
    · apply addressed.targets_of_kept (entered.kept hg) hp
  · intro exchange hm id served
    rw [exchanges] at hm
    obtain hm | hm := List.mem_append.mp hm
    · apply addressed.asked exchange hm id served
    · obtain rfl := (sound.own_of_move hb move exchange hm).symm.trans served
      apply ((addressed.tasks id before hb).move move).2 exchange hm

theorem Addressed.wait (addressed : run.Addressed setting) (later : Nat) :
  ({ run with now := later } : Run σ).Addressed setting
  := by
  refine ⟨?_, addressed.asked⟩
  intro id progress hp
  rw [progress?_wait] at hp
  apply addressed.tasks id progress hp

theorem Addressed.removing (addressed : run.Addressed setting) (ids : List String) :
  (run.removing ids).Addressed setting
  := by
  constructor
  · intro id progress hp
    apply addressed.targets_of_kept (run.kept_removing ids _) hp
  · rw [exchanges_removing]
    apply addressed.asked

end Run

end Reconcile
