import Mathlib.Tactic.Common
import Reconcile.Proofs.Run.Rounds
import Reconcile.Proofs.Stack.Completion

/-!
# Resources that are ready

However an update is scheduled, the properties of a declared resource are evaluated in at most one round more than
there are declared resources, and as long as the tasks that are waited for come to an end, so do the rounds.  What the
last round returns is resolved, so that no resource fails because a value is not available, and none may or may not
have to be changed.
-/

namespace Reconcile

variable {σ : Type} {setting : Setting σ} {world : σ} {run : Run σ} {id : String} {resource : Resource}
  {rounds : List Round}

/-- An update may have come so far, and on its way the properties of a resource have been evaluated in these
rounds. -/
inductive Setting.ReachesIn (setting : Setting σ) (world : σ) (id : String) : List Round → Run σ → Prop where
  | updating {rounds : List Round} {run : Run σ}
      (leadsIn : Run.LeadsIn setting id (setting.requested world) rounds run) :
    ReachesIn setting world id rounds run
  | removing {rounds rounds' : List Round} {middle run : Run σ}
      (leadsIn : Run.LeadsIn setting id (setting.requested world) rounds middle) (updated : middle.isOver)
      (unfailed : middle.failures (setting.desired.resources.names.map .update) = [])
      (leadsIn' : Run.LeadsIn setting id (middle.removing setting.removals) rounds' run) :
    ReachesIn setting world id (rounds ++ rounds') run

namespace Setting

theorem ReachesIn.reaches (reachesIn : setting.ReachesIn world id rounds run) :
  setting.Reaches world run
  := by
  cases reachesIn with
  | updating leadsIn =>
    obtain ⟨count, leads⟩ := leadsIn.leads
    exact .updating leads
  | removing leadsIn updated unfailed leadsIn' =>
    obtain ⟨count, leads⟩ := leadsIn.leads
    obtain ⟨count', leads'⟩ := leadsIn'.leads
    exact .removing leads updated unfailed leads'

/-- However far an update has come, it has done so with some rounds. -/
theorem Reaches.exists_reachesIn (reaches : setting.Reaches world run) (id : String) :
  ∃ rounds, setting.ReachesIn world id rounds run
  := by
  cases reaches with
  | updating leads =>
    obtain ⟨rounds, leadsIn⟩ := leads.exists_leadsIn id
    exact ⟨rounds, .updating leadsIn⟩
  | removing leads updated unfailed leads' =>
    obtain ⟨rounds, leadsIn⟩ := leads.exists_leadsIn id
    obtain ⟨rounds', leadsIn'⟩ := leads'.exists_leadsIn id
    exact ⟨rounds ++ rounds', .removing leadsIn updated unfailed leadsIn'⟩

/-- All rounds of an update are in keeping with what has become of the resource. -/
theorem ReachesIn.rounded (reachesIn : setting.ReachesIn world id rounds run)
    (declared : setting.desired.resources.get? id = some resource) :
  setting.Rounded id resource rounds (run.stage id)
  := by
  have requested : (setting.requested world).stage id = .ready := by
    apply Run.stage_eq
    rw [progress?_requested, if_pos]
    apply List.mem_map_of_mem
    exact (Table.exists_get?_iff _ _).mp ⟨resource, declared⟩
  have first : setting.Rounded id resource [] ((setting.requested world).stage id) := by
    rw [requested]
    exact ⟨.ready rfl, by nofun⟩
  cases reachesIn with
  | updating leadsIn => exact first.leadsIn (setting.sound_requested world) declared leadsIn
  | @removing _ _ middle _ leadsIn updated unfailed leadsIn' =>
    obtain ⟨count, leads⟩ := leadsIn.leads
    have sound := (leads.sound (setting.sound_requested world)).1
    have rounded := first.leadsIn (setting.sound_requested world) declared leadsIn
    have kept : (middle.removing setting.removals).stage id = middle.stage id := by
      rw [Run.stage, Run.progress?_removing]
      simp [Run.stage]
    exact (kept ▸ rounded).leadsIn (sound.removing _).1 declared leadsIn'

end Setting

namespace Run

/-- The rounds in which the properties of a resource have been evaluated so far lead to an operation. -/
structure Readies (setting : Setting σ) (run : Run σ) (id : String) (resource : Resource) (rounds : List Round) :
    Prop where
  /-- There is at most one round more than there are declared resources. -/
  bounded : rounds.length ≤ setting.desired.resources.names.length + 1
  /-- Another round follows all but the last one. -/
  followed : ∀ round ∈ rounds.dropLast, round.isPending
  /-- While a task waits, another round may follow.  It does when all that the task waits for have ended, unless one
  of these has failed. -/
  ongoing : ∀ on awaited, run.progress? (.update id) = some (.waiting on awaited) →
    (∀ round ∈ rounds, round.isPending) ∧ rounds.length ≤ setting.desired.resources.names.length
      ∧ ((∀ other ∈ on, (run.result? (.update other)).isSome) → ∃ next, run.step? setting (.update id) = some next
        ∧ ((∃ round, run.round? setting id = some round)
          ∨ ∃ other ∈ on, next.result? (.update id) = some (.error (.dependencyFailed id other))))
  /-- What the last round returns depends on nothing that is not available. -/
  resolved : ∀ resolution, .returned resolution ∈ rounds → resolution.unresolved = []
  /-- It can be realized, and settles the operation. -/
  decided : ∀ resolution, .returned resolution ∈ rounds →
    ∃ properties decision, setting.Decides id resource resolution properties decision
      ∧ decision.operation ≠ .maybeUpdate
  /-- The task does not fail because a value is not available. -/
  accessible : ∀ other dependencies,
    run.result? (.update id) ≠ some (.error (.resolution other (.unresolvedAccess dependencies)))
  /-- What was done is not that something may have to be. -/
  settled : ∀ physical operation,
    run.result? (.update id) = some (.ok (.applied physical operation)) → operation ≠ .maybeUpdate

/-- When all have ended that a task waits for, it goes on with a round, or fails as one of them has failed. -/
theorem exists_step?_of_waiting {on awaited : List String}
    (declared : setting.desired.resources.get? id = some resource)
    (waits : run.progress? (.update id) = some (.waiting on awaited))
    (ended : ∀ other ∈ on, (run.result? (.update other)).isSome) :
  ∃ next, run.step? setting (.update id) = some next
    ∧ ((∃ round, run.round? setting id = some round)
      ∨ ∃ other ∈ on, next.result? (.update id) = some (.error (.dependencyFailed id other)))
  := by
  obtain ⟨next, h⟩ := (exists_step?_iff setting run (.update id)).mpr ⟨_, waits, rfl, ended, by nofun⟩
  use next, h
  obtain ⟨before, after, new, hb, move, entered, -⟩ := step?_spec h
  obtain rfl := Option.some.inj (waits.symm.trans hb)
  cases move with
  | proceeded _ unfailed =>
    exact .inl ⟨_, round?_eq_some.mpr ⟨resource, on, awaited, declared, waits, ended, unfailed, rfl⟩⟩
  | @blocked _ _ other _ failed =>
    refine .inr ⟨other, (mem_of_firstFailed? failed).1, ?_⟩
    rw [result?_eq_some, entered.progress?_eq, if_pos rfl]
    rfl

/-- In every run of an update, the rounds of a resource, of which there are some, lead to an operation. -/
theorem readies_of_reaches (declared : setting.desired.resources.get? id = some resource)
    (reaches : setting.Reaches world run) :
  (∃ rounds, setting.ReachesIn world id rounds run)
    ∧ ∀ rounds, setting.ReachesIn world id rounds run → run.Readies setting id resource rounds
  := by
  use reaches.exists_reachesIn id
  intro rounds reachesIn
  have rounded := reachesIn.rounded declared
  obtain ⟨bounded, followed⟩ := rounded.staged.limited
  constructor
  · exact bounded
  · exact followed
  · intro on awaited waits
    have staged := rounded.staged
    rw [stage_eq waits] at staged
    cases staged with
    | waiting pending bounded => exact ⟨pending, by omega, exists_step?_of_waiting declared waits⟩
  · intro resolution returned
    exact (rounded.decisive resolution returned).resolved
  · intro resolution returned
    exact (rounded.decisive resolution returned).decided
  · intro other dependencies failed
    have staged := rounded.staged
    rw [stage_eq (result?_eq_some.mp failed)] at staged
    cases staged with
    | finished limited accessible => exact accessible other dependencies rfl
  · intro physical operation finished
    obtain ⟨_, decision, -, prepared, -, rfl⟩ := (reaches.sound.accounted finished).applied
    obtain ⟨resolution, -, decides⟩ := prepared.resolved
    exact decides.ne_maybeUpdate

/-- A resource that refers to another is ready in the second round. -/
theorem exists_readies_chained :
  ∃ run resource rounds, Template.chained.resources.get? "Top" = some resource
    ∧ (Stack.obliging.updateSetting .chained {}).Reaches () run
    ∧ (Stack.obliging.updateSetting .chained {}).ReachesIn () "Top" rounds run
    ∧ rounds.map Round.isPending = [true, false]
    ∧ run.Readies (Stack.obliging.updateSetting .chained {}) "Top" resource rounds
  := by
  let setting := Stack.obliging.updateSetting .chained {}
  let goals : List Goal :=
    [.update "Top", .update "Top", .update "Base", .update "Base", .update "Base", .update "Top"]
  have scheduled : ((setting.requested ()).steps? setting goals).isSome := by decide +kernel
  have rounds : ((setting.requested ()).roundsAlong setting "Top" goals).map Round.isPending = [true, false] := by
    decide +kernel
  obtain ⟨run, scheduled⟩ := Option.isSome_iff_exists.mp scheduled
  have reachesIn : setting.ReachesIn () "Top" _ run := .updating (leadsIn_steps? scheduled "Top")
  have declared : setting.desired.resources.get? "Top"
      = some { type := "T", properties := some (.object [("On", .ref "Base")]) } := rfl
  refine ⟨run, _, _, declared, reachesIn.reaches, reachesIn, rounds, ?_⟩
  exact (readies_of_reaches declared reachesIn.reaches).2 _ reachesIn

end Run

end Reconcile
