import Mathlib.Tactic.Common
import Reconcile.Proofs.Run.Attempts
import Reconcile.Proofs.Stack.Foretelling

/-!
# Operations of an update

However far an update has come, and whatever the schedule, providers have been asked for one
operation on a resource at most.  Resources are deleted last, when all that is declared has been
brought up to date, and only resources that are not to be there.
-/

namespace Reconcile

variable {σ : Type}

namespace Run

variable {setting : Setting σ} {middle run : Run σ} {ids : List String}

/-- When all tasks have finished, the removal of resources leaves those alone that bring others up to date, and
providers are asked for nothing but deletions. -/
theorem Leads.removing_frame (sound : middle.Sound setting) (ended : middle.isOver) {count : Nat}
    (leads : Leads setting (middle.removing ids) count run) :
  (∀ id, run.progress? (.update id) = middle.progress? (.update id))
    ∧ ∃ deletions, run.calls = middle.calls ++ deletions ∧ ∀ call ∈ deletions, ∃ id, call.request.goal = .delete id
  := by
  have frame : run.Sound setting ∧ (∀ id, run.progress? (.update id) = middle.progress? (.update id))
      ∧ ∃ deletions, run.calls = middle.calls ++ deletions
        ∧ ∀ call ∈ deletions, ∃ id, call.request.goal = .delete id := by
    apply leads.invariant fun run => run.Sound setting
      ∧ (∀ id, run.progress? (.update id) = middle.progress? (.update id))
      ∧ ∃ deletions, run.calls = middle.calls ++ deletions
        ∧ ∀ call ∈ deletions, ∃ id, call.request.goal = .delete id
    · rintro run next goal ⟨sound, same, deletions, calls, deletes⟩ h
      obtain ⟨before, after, new, hb, move, entered, -⟩ := step?_spec h
      cases goal with
      | update id =>
        have finished := isOver_iff.mp ended (.update id) before ((same id).symm.trans hb)
        rw [Run.result?, ← same, hb, Option.bind_some, move.unfinished] at finished
        cases finished
      | delete id =>
        have there : next.progress? (.delete id) = some after := by rw [entered.progress?_eq, if_pos rfl]
        refine ⟨(sound.step h).1, ?_, deletions ++ after.begunCalls run.now, ?_, ?_⟩
        · intro other
          have apart : Goal.update other ≠ .delete id := by simp
          rw [entered.progress?_eq, if_neg apart, ← same]
          simp
        · rw [entered.calls_eq, calls, List.append_assoc]
        · intro call hc
          obtain hc | hc := List.mem_append.mp hc
          · exact deletes call hc
          · cases after with
            | calling request attempt since due =>
              obtain rfl := List.mem_singleton.mp hc
              exact ⟨id, (sound.step h).1.goal_of_calling there⟩
            | _ => cases hc
    · rintro run later ⟨sound, same, calls⟩
      exact ⟨(sound.wait later).1, same, calls⟩
    · refine ⟨(sound.removing ids).1, ?_, [], ?_, ?_⟩
      · intro id
        simp [progress?_removing]
      · rw [calls_removing, List.append_nil]
      · simp
  exact frame.2

/-- What providers have been asked for in an update, however far it has come, is in order. -/
structure Operates (setting : Setting σ) (run : Run σ) : Prop where
  /-- To bring a resource up to date one operation is asked for at most, and to delete it another one. -/
  once : ∀ goal, Attempts (run.asked goal) (run.answers goal)
  /-- No resource is both brought up to date and deleted. -/
  apart : ∀ id, run.asked (.update id) = [] ∨ run.asked (.delete id) = []
  /-- Resources are deleted last, -/
  last : ∃ updates deletions, run.calls = updates ++ deletions
    ∧ (∀ call ∈ updates, ∃ id, call.request.goal = .update id)
    ∧ ∀ call ∈ deletions, ∃ id, call.request.goal = .delete id
  /-- when everything that was asked for to bring resources up to date has been answered, -/
  answered : ∀ id, run.asked (.delete id) ≠ [] →
    ∀ other, (run.answers (.update other)).length = (run.asked (.update other)).length
  /-- and every declared resource has ended well; -/
  reconciled : ∀ id, run.asked (.delete id) ≠ [] →
    ∀ other resource, setting.desired.resources.get? other = some resource → run.EndsWell other
  /-- and only resources that are not declared, or whose condition is false. -/
  unwanted : ∀ id, run.asked (.delete id) ≠ [] → ∀ resource, setting.desired.resources.get? id = some resource →
    setting.inputs.conditions.isActive resource.condition = .ok false

theorem mem_asked {goal : Goal} {request : Request} :
  request ∈ run.asked goal ↔ request.goal = goal ∧ ∃ call ∈ run.calls, call.request = request
  := by
  simp only [asked, List.mem_map, List.mem_filter, decide_eq_true_eq]
  constructor
  · rintro ⟨call, ⟨hc, served⟩, rfl⟩
    exact ⟨served, call, hc, rfl⟩
  · rintro ⟨served, call, hc, rfl⟩
    exact ⟨call, ⟨hc, served⟩, rfl⟩

end Run

namespace Setting

variable {setting : Setting σ} {world : σ} {middle run : Run σ} {id : String}

theorem Reaches.tallied (reaches : setting.Reaches world run) :
  run.Tallied setting
  := by
  have both : run.Sound setting ∧ run.Tallied setting := by
    apply reaches.invariant fun run => run.Sound setting ∧ run.Tallied setting
    · exact ⟨setting.sound_requested world, Run.tallied_requested setting world⟩
    · rintro run next goal ⟨sound, tallied⟩ h
      exact ⟨(sound.step h).1, tallied.step sound h⟩
    · rintro run later ⟨sound, tallied⟩
      exact ⟨(sound.wait later).1, tallied.wait sound later⟩
    · rintro run ⟨sound, tallied⟩
      exact ⟨(sound.removing _).1, tallied.removing sound _⟩
  exact both.2

/-- A resource that a provider is asked to delete is not declared, or its condition is false. -/
theorem Reaches.inactive (reaches : setting.Reaches world run) (deletes : run.asked (.delete id) ≠ [])
    {resource : Resource} (declared : setting.desired.resources.get? id = some resource) :
  setting.inputs.conditions.isActive resource.condition = .ok false
  := by
  obtain ⟨request, asked⟩ := List.exists_mem_of_ne_nil _ deletes
  obtain ⟨served, call, hc, rfl⟩ := Run.mem_asked.mp asked
  have doomed := StackState.mem_deletionOrder.mp (reaches.mem_removals hc served)
  have isResource : setting.desired.isResource id := by
    rw [Template.isResource, Table.contains_iff]
    exact (Table.exists_get?_iff _ _).mp ⟨resource, declared⟩
  simp only [StackState.isDoomed, isResource, Bool.not_true, Bool.false_or, Bool.and_eq_true,
    List.contains_iff_mem] at doomed
  obtain ⟨resource', declared', inactive⟩ := Stack.mem_excluded.mp doomed.2
  obtain rfl := Option.some.inj (declared.symm.trans declared')
  exact inactive

/-- A resource that a provider is asked to bring up to date is declared, and its condition is true. -/
theorem Reaches.active (reaches : setting.Reaches world run) (updates : run.asked (.update id) ≠ []) :
  ∃ resource, setting.desired.resources.get? id = some resource
    ∧ setting.inputs.conditions.isActive resource.condition = .ok true
  := by
  obtain ⟨request, asked⟩ := List.exists_mem_of_ne_nil _ updates
  obtain ⟨served, call, hc, rfl⟩ := Run.mem_asked.mp asked
  obtain ⟨resource, _, _, declared, prepared, -⟩ := reaches.sound.calls call hc id served
  exact ⟨resource, declared, prepared.active⟩

/-- While declared resources are brought up to date, no task asks a provider to delete one. -/
theorem asked_delete_eq_nil {count : Nat} (leads : Run.Leads setting (setting.requested world) count run)
    (id : String) :
  run.asked (.delete id) = []
  := by
  apply List.eq_nil_iff_forall_not_mem.mpr
  intro request asked
  obtain ⟨served, call, hc, rfl⟩ := Run.mem_asked.mp asked
  exact leads.uncalled call hc id served

/-- Once a provider is asked to delete a resource, the tasks of all others that were to be brought up to date have
finished. -/
theorem Reaches.finished (reaches : setting.Reaches world run) (deletes : run.asked (.delete id) ≠ [])
    {other : String} {progress : Progress} (hp : run.progress? (.update other) = some progress) :
  ∃ result, progress = .finished result
  := by
  cases reaches with
  | updating leads => exact absurd (asked_delete_eq_nil leads id) deletes
  | @removing _ _ middle _ leads updated unfailed leads' =>
    obtain ⟨sound, -⟩ := leads.sound (setting.sound_requested world)
    obtain ⟨same, -⟩ := leads'.removing_frame sound updated
    rw [same] at hp
    obtain ⟨result, finished⟩ := Run.exists_result_of_isOver updated ⟨progress, hp⟩
    rw [Run.result?_eq_some, hp] at finished
    exact ⟨result, Option.some.inj finished⟩

/-- Once a provider is asked to delete a resource, all that is declared has ended well. -/
theorem Reaches.endsWell (reaches : setting.Reaches world run) (deletes : run.asked (.delete id) ≠ [])
    {other : String} {resource : Resource} (declared : setting.desired.resources.get? other = some resource) :
  run.EndsWell other
  := by
  cases reaches with
  | updating leads => exact absurd (asked_delete_eq_nil leads id) deletes
  | @removing _ _ middle _ leads updated unfailed leads' =>
    have listed : other ∈ setting.desired.resources.names := (Table.exists_get?_iff _ _).mp ⟨resource, declared⟩
    have requested : ∃ progress, (setting.requested world).progress? (.update other) = some progress := by
      rw [progress?_requested, if_pos (List.mem_map_of_mem listed)]
      exact ⟨.ready, rfl⟩
    obtain ⟨result, finished⟩ := Run.exists_result_of_isOver updated (leads.exists_progress requested)
    have unfailed := Run.failures_eq_nil.mp unfailed (.update other) (List.mem_map_of_mem listed)
    cases result with
    | error error => exact absurd finished (unfailed error)
    | ok outcome =>
      use outcome
      apply leads'.result?
      rwa [Run.result?_removing]

/-- The deletions that providers are asked for come after everything else. -/
theorem Reaches.exists_split (reaches : setting.Reaches world run) :
  ∃ updates deletions, run.calls = updates ++ deletions
    ∧ (∀ call ∈ updates, ∃ id, call.request.goal = .update id)
    ∧ ∀ call ∈ deletions, ∃ id, call.request.goal = .delete id
  := by
  have updates {count : Nat} {run : Run σ} (leads : Run.Leads setting (setting.requested world) count run) :
      ∀ call ∈ run.calls, ∃ id, call.request.goal = .update id := by
    intro call hc
    cases served : call.request.goal with
    | update id => exact ⟨id, rfl⟩
    | delete id => exact absurd served (leads.uncalled call hc id)
  cases reaches with
  | updating leads => exact ⟨run.calls, [], (List.append_nil _).symm, updates leads, nofun⟩
  | @removing _ _ middle _ leads updated unfailed leads' =>
    obtain ⟨sound, -⟩ := leads.sound (setting.sound_requested world)
    obtain ⟨-, deletions, calls, deletes⟩ := leads'.removing_frame sound updated
    exact ⟨middle.calls, deletions, calls, updates leads, deletes⟩

/-- However far an update has come, under whatever schedule, what providers have been asked for is in order. -/
theorem operates_of_reaches (reaches : setting.Reaches world run) :
  run.Operates setting
  := by
  have tallied := reaches.tallied
  have sound := reaches.sound
  constructor
  · intro goal
    cases hp : run.progress? goal with
    | none =>
      rw [tallied.unasked goal hp, sound.unasked goal hp]
      exact .none
    | some progress => exact (tallied.tasks goal progress hp).attempts
  · intro id
    by_contra both
    obtain ⟨updates, deletes⟩ := not_or.mp both
    obtain ⟨resource, declared, active⟩ := reaches.active updates
    cases active.symm.trans (reaches.inactive deletes declared)
  · exact reaches.exists_split
  · intro id deletes other
    cases hp : run.progress? (.update other) with
    | none =>
      rw [tallied.unasked _ hp, sound.unasked _ hp]
      rfl
    | some progress =>
      obtain ⟨result, rfl⟩ := reaches.finished deletes hp
      exact (tallied.tasks _ _ hp).length_eq
  · intro id deletes other resource declared
    exact reaches.endsWell deletes declared
  · intro id deletes resource declared
    exact reaches.inactive deletes declared

/-- In an update that makes one resource and then deletes another one, providers are asked in order. -/
theorem exists_operates_moving :
  ∃ run, (Stack.moving.updateSetting .chained {}).Reaches () run
    ∧ run.asked (.update "Top") ≠ [] ∧ run.asked (.delete "Old") ≠ []
    ∧ run.Operates (Stack.moving.updateSetting .chained {})
  := by
  let setting := Stack.moving.updateSetting .chained {}
  have removals : setting.removals = ["Old"] := by cbv
  have moved : ((setting.requested ()).steps? setting
      [.update "Base", .update "Base", .update "Top", .update "Top", .update "Top"]).any fun middle =>
        middle.isOver && (middle.failures (setting.desired.resources.names.map .update)).isEmpty
          && ((middle.removing ["Old"]).steps? setting [.delete "Old", .delete "Old"]).any fun run =>
            !(run.asked (.update "Top")).isEmpty && !(run.asked (.delete "Old")).isEmpty := by
    decide +kernel
  obtain ⟨middle, scheduled, holds⟩ := (Option.any_eq_true _ _).mp moved
  simp only [Bool.and_eq_true, List.isEmpty_iff] at holds
  obtain ⟨⟨updated, unfailed⟩, removed⟩ := holds
  obtain ⟨run, scheduled', holds⟩ := (Option.any_eq_true _ _).mp removed
  simp only [Bool.and_eq_true, Bool.not_eq_true', List.isEmpty_eq_false_iff] at holds
  obtain ⟨count, leads⟩ := Run.leads_steps? scheduled
  obtain ⟨count', leads'⟩ := Run.leads_steps? scheduled'
  rw [← removals] at leads'
  have reaches : setting.Reaches () run := .removing leads updated unfailed leads'
  exact ⟨run, reaches, holds.1, holds.2, operates_of_reaches reaches⟩

end Setting

end Reconcile
