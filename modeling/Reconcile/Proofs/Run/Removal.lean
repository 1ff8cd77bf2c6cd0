import Mathlib.Logic.Relation
import Mathlib.Tactic.Common
import Reconcile.Proofs.Graph.Edges
import Reconcile.Proofs.Run.Soundness

/-!
# Removal of resources

A recorded resource is deleted only when everything that depends on it is out of the way: deleted,
or left in place as its definition asks for.  So a provider that deletes it has deleted its
dependents before, and when one of these fails, it is left alone.
-/

namespace Reconcile

variable {σ : Type}

/-- A provider has deleted a resource. -/
def Exchange.Deletes (exchange : Exchange) (id : String) : Prop :=
  exchange.request.goal = .delete id ∧ ∃ reply, exchange.answer = .ok reply

namespace Run

section

variable (setting : Setting σ) (run : Run σ)

/-- A recorded resource is gone, or has been left in place. -/
def Clears (id : String) : Prop := ∃ outcome, run.result? (.delete id) = some (.ok outcome)

/-- Everything that has to be deleted before a resource is out of its way. -/
def Cleared (id : String) : Prop := ∀ other ∈ setting.dependents run id, run.Clears other

/-- How far the task that removes a resource has come, along with what has become of its dependents. -/
inductive Removing (id : String) : Progress → Prop where
  | ready : Removing id .ready
  | waiting (policy : setting.deletionPolicy id = .delete) :
    Removing id (.waiting (setting.dependents run id) [])
  | calling {previous : PhysicalResource} {attempt since due : Nat}
      (policy : setting.deletionPolicy id = .delete) (cleared : run.Cleared setting id) :
    Removing id (.calling (.delete id previous.type previous) attempt since due)
  | resting {previous : PhysicalResource} {attempt since due : Nat}
      (policy : setting.deletionPolicy id = .delete) (cleared : run.Cleared setting id) :
    Removing id (.resting (.delete id previous.type previous) attempt since due)
  | deleted (policy : setting.deletionPolicy id = .delete) (cleared : run.Cleared setting id) :
    Removing id (.finished (.ok .deleted))
  | retained (policy : setting.deletionPolicy id = .retain) : Removing id (.finished (.ok .retained))
  | absent (unrecorded : setting.previous.resources.get? id = none) : Removing id (.finished (.ok .absent))
  | unsupported (policy : setting.deletionPolicy id = .snapshot) :
    Removing id (.finished (.error (.unsupportedDeletionPolicy id .snapshot)))
  /-- One of the dependents has failed, and none of those before it. -/
  | blocked {other : String} {before after : List String} {error : StackError}
      (policy : setting.deletionPolicy id = .delete)
      (first : setting.dependents run id = before ++ other :: after)
      (cleared : ∀ earlier ∈ before, run.Clears earlier)
      (failed : run.result? (.delete other) = some (.error error)) :
    Removing id (.finished (.error (.dependentNotDeleted id other)))
  | failed {error : StackError} (policy : setting.deletionPolicy id = .delete)
      (cleared : run.Cleared setting id) :
    Removing id (.finished (.error error))

/-- Resources are being deleted, each after its dependents. -/
structure Dismantling : Prop where
  recorded : ∀ id ∈ run.doomed, setting.previous.resources.contains id
  tasks : ∀ id progress, run.progress? (.delete id) = some progress →
    id ∈ run.doomed ∧ run.Removing setting id progress
  calls : ∀ call ∈ run.calls, ∀ id, call.request.goal = .delete id →
    id ∈ run.doomed ∧ setting.deletionPolicy id = .delete ∧ run.Cleared setting id
  answered : ∀ id, run.result? (.delete id) = some (.ok .deleted) ↔ ∃ exchange ∈ run.exchanges, exchange.Deletes id
  /-- What was deleted by a provider comes after what depends on it. -/
  preceded : ∀ before exchange after id, run.exchanges = before ++ exchange :: after → exchange.Deletes id →
    ∀ other ∈ setting.dependents run id, setting.deletionPolicy other = .delete →
      ∃ earlier ∈ before, earlier.Deletes other
  /-- Nothing is deleted twice. -/
  once : run.exchanges.Pairwise fun earlier later => ∀ id, earlier.Deletes id → ¬ later.Deletes id

end

variable {setting : Setting σ} {run next : Run σ} {id : String}

/-! ### Later runs -/

theorem dependents_eq (doomed : next.doomed = run.doomed) (id : String) :
  setting.dependents next id = setting.dependents run id
  := by
  unfold Setting.dependents
  rw [doomed]

section

variable (kept : ∀ goal result, run.result? goal = some result → next.result? goal = some result)
  (doomed : next.doomed = run.doomed)

include kept

theorem Clears.later (h : run.Clears id) :
  next.Clears id
  := by
  obtain ⟨outcome, finished⟩ := h
  exact ⟨outcome, kept _ _ finished⟩

include doomed

theorem Cleared.later (h : run.Cleared setting id) :
  next.Cleared setting id
  := by
  unfold Cleared at h ⊢
  rw [dependents_eq doomed]
  intro other ho
  exact (h other ho).later kept

theorem Removing.later {progress : Progress} (removing : run.Removing setting id progress) :
  next.Removing setting id progress
  := by
  cases removing with
  | ready => exact .ready
  | waiting policy =>
    rw [← dependents_eq doomed]
    exact .waiting policy
  | calling policy cleared => exact .calling policy (cleared.later kept doomed)
  | resting policy cleared => exact .resting policy (cleared.later kept doomed)
  | deleted policy cleared => exact .deleted policy (cleared.later kept doomed)
  | retained policy => exact .retained policy
  | absent unrecorded => exact .absent unrecorded
  | unsupported policy => exact .unsupported policy
  | blocked policy first cleared failed =>
    rw [← dependents_eq doomed] at first
    exact .blocked policy first (fun earlier he => (cleared earlier he).later kept) (kept _ _ failed)
  | failed policy cleared => exact .failed policy (cleared.later kept doomed)

end

/-! ### Moves -/

theorem Removing.call (policy : setting.deletionPolicy id = .delete) (cleared : run.Cleared setting id)
    (previous : PhysicalResource) (now attempt since : Nat) :
  run.Removing setting id (setting.call now (.delete id previous.type previous) attempt since)
  := by
  obtain ⟨provider, -, hc⟩ | ⟨error, -, hc⟩ :=
    setting.call_cases now (.delete id previous.type previous) attempt since
  · rw [hc]
    exact .calling policy cleared
  · rw [hc]
    exact .failed policy cleared

/-- A dependent that is not the first failure has been cleared away, if it comes before that. -/
theorem exists_split_of_firstFailed? {on : List String} {other : String}
    (ended : ∀ id ∈ on, (run.result? (.delete id)).isSome)
    (h : run.firstFailed? (.delete id) on = some other) :
  ∃ before after error, on = before ++ other :: after ∧ (∀ earlier ∈ before, run.Clears earlier)
    ∧ run.result? (.delete other) = some (.error error)
  := by
  obtain ⟨-, error, failed⟩ := mem_of_firstFailed? h
  obtain ⟨-, before, after, rfl, unfailed⟩ := List.find?_eq_some_iff_append.mp h
  refine ⟨before, after, error, rfl, ?_, failed⟩
  intro earlier he
  obtain ⟨result, finished⟩ := Option.isSome_iff_exists.mp (ended earlier (List.mem_append_left _ he))
  have holds := unfailed earlier he
  rw [Goal.withId_delete, finished] at holds
  cases result with
  | error error => simp at holds
  | ok outcome => exact ⟨outcome, finished⟩

theorem cleared_of_firstFailed? {on : List String} (ended : ∀ id ∈ on, (run.result? (.delete id)).isSome)
    (h : run.firstFailed? (.delete id) on = none) :
  ∀ other ∈ on, run.Clears other
  := by
  intro other ho
  obtain ⟨result, finished⟩ := Option.isSome_iff_exists.mp (ended other ho)
  have unfailed := List.find?_eq_none.mp h other ho
  rw [Goal.withId_delete, finished] at unfailed
  cases result with
  | error error => simp at unfailed
  | ok outcome => exact ⟨outcome, finished⟩

theorem Removing.move {before after : Progress} {new : List Exchange}
    (removing : run.Removing setting id before) (move : Move setting run (.delete id) before after new) :
  run.Removing setting id after
  := by
  cases move with
  | begun =>
    unfold Setting.begin
    dsimp only
    split
    · match hp : setting.deletionPolicy id with
      | .retain => exact .retained hp
      | .snapshot => exact .unsupported hp
      | .delete => exact .waiting hp
    · next unrecorded => exact .absent (by simpa [Table.contains] using unrecorded)
  | blocked ended failed =>
    cases removing with
    | waiting policy =>
      obtain ⟨before, after, error, first, cleared, failed⟩ := exists_split_of_firstFailed? ended failed
      exact .blocked policy first cleared failed
  | proceeded ended unfailed =>
    cases removing with
    | waiting policy =>
      unfold Setting.proceed
      dsimp only
      split
      · next unrecorded => exact .absent unrecorded
      · next previous recorded => exact .call policy (cleared_of_firstFailed? ended unfailed) previous _ _ _
  | unserved missing =>
    cases removing with
    | calling policy cleared => exact .failed policy cleared
  | succeeded serving answer =>
    cases removing with
    | calling policy cleared => exact .deleted policy cleared
  | delayed serving answer again =>
    cases removing with
    | calling policy cleared => exact .resting policy cleared
  | failed serving answer last =>
    cases removing with
    | calling policy cleared => exact .failed policy cleared
  | resumed =>
    cases removing with
    | resting policy cleared => exact .call policy cleared _ _ _ _

/-- The task that removes a resource finds it deleted when it takes that answer, and in no other way. -/
theorem Removing.deleted_iff {before after : Progress} {new : List Exchange}
    (removing : run.Removing setting id before) (move : Move setting run (.delete id) before after new) :
  after = .finished (.ok .deleted) ↔ ∃ exchange ∈ new, exchange.Deletes id
  := by
  have call (request : Request) (now attempt since : Nat) :
      setting.call now request attempt since ≠ .finished (.ok .deleted) := by
    unfold Setting.call
    split
    · nofun
    · nofun
  cases move with
  | begun =>
    have never : setting.begin run (.delete id) ≠ .finished (.ok .deleted) := by
      unfold Setting.begin
      dsimp only
      split
      · split
        · nofun
        · nofun
        · nofun
      · nofun
    simp [never]
  | blocked ended failed => simp
  | proceeded ended unfailed =>
    have never (awaited : List String) : setting.proceed run awaited (.delete id) ≠ .finished (.ok .deleted) := by
      unfold Setting.proceed
      dsimp only
      split
      · nofun
      · apply call
    simp [never]
  | unserved missing => simp
  | @succeeded request _ _ _ _ reply serving answer =>
    cases removing with
    | calling policy cleared =>
      simp only [Setting.outcome, List.mem_singleton, exists_eq_left, true_iff]
      exact ⟨rfl, reply, rfl⟩
  | delayed serving answer again => simp [Exchange.Deletes]
  | failed serving answer last => simp [Exchange.Deletes]
  | resumed => simp [call]

namespace Dismantling

/-! ### Steps -/

/-- What can become of a resource that is to be removed. -/
theorem cases_of_result (dismantling : run.Dismantling setting) {result : Except StackError Outcome}
    (finished : run.result? (.delete id) = some result) :
  match setting.deletionPolicy id with
  | .retain => result = .ok .retained
  | .snapshot => result = .error (.unsupportedDeletionPolicy id .snapshot)
  | .delete =>
    run.Cleared setting id ∧ (result = .ok .deleted ∨ ∃ error, result = .error error)
      ∨ ∃ other before after error, setting.dependents run id = before ++ other :: after
          ∧ (∀ earlier ∈ before, run.Clears earlier) ∧ run.result? (.delete other) = some (.error error)
          ∧ result = .error (.dependentNotDeleted id other)
  := by
  obtain ⟨doomed, removing⟩ := dismantling.tasks id _ (result?_eq_some.mp finished)
  cases removing with
  | deleted policy cleared =>
    rw [policy]
    exact .inl ⟨cleared, .inl rfl⟩
  | retained policy => rw [policy]
  | absent unrecorded =>
    have recorded := dismantling.recorded id doomed
    simp [Table.contains, unrecorded] at recorded
  | unsupported policy => rw [policy]
  | blocked policy first cleared failed =>
    rw [policy]
    exact .inr ⟨_, _, _, _, first, cleared, failed, rfl⟩
  | failed policy cleared =>
    rw [policy]
    exact .inl ⟨cleared, .inr ⟨_, rfl⟩⟩

theorem clears_deleted (dismantling : run.Dismantling setting) (clears : run.Clears id)
    (policy : setting.deletionPolicy id = .delete) :
  run.result? (.delete id) = some (.ok .deleted)
  := by
  obtain ⟨outcome, finished⟩ := clears
  have cases := dismantling.cases_of_result finished
  rw [policy] at cases
  obtain ⟨-, he | ⟨error, he⟩⟩ | ⟨_, _, _, _, -, -, -, he⟩ := cases
  · rw [finished, he]
  · cases he
  · cases he

/-- The answers that a step adds come after those that they depend on. -/
theorem preceded_concat (dismantling : run.Dismantling setting) {exchange : Exchange}
    (cleared : exchange.Deletes id → run.Cleared setting id) {before after : List Exchange} {earlier : Exchange}
    (split : run.exchanges ++ [exchange] = before ++ earlier :: after) (deletes : earlier.Deletes id) :
  ∀ other ∈ setting.dependents run id, setting.deletionPolicy other = .delete →
    ∃ earliest ∈ before, earliest.Deletes other
  := by
  intro other ho policy
  obtain rfl | ⟨last, butLast, rfl⟩ := List.eq_nil_or_concat' after
  · -- It is the new one.
    obtain ⟨rfl, he⟩ := List.append_inj' split rfl
    obtain rfl := List.singleton_inj.mp he
    apply (dismantling.answered other).mp
    apply dismantling.clears_deleted (cleared deletes other ho) policy
  · rw [← List.cons_append, ← List.append_assoc] at split
    obtain ⟨he, -⟩ := List.append_inj' split rfl
    apply dismantling.preceded before earlier _ id he deletes other ho policy

section

variable (dismantling : run.Dismantling setting) (sound : run.Sound setting) {goal : Goal} {before after : Progress}
  {new : List Exchange} (hb : run.progress? goal = some before) (move : Move setting run goal before after new)

include dismantling hb move

/-- The task that moves is one of those that remove resources. -/
theorem removing_of_move (hg : goal = .delete id) :
  id ∈ run.doomed ∧ run.Removing setting id after
  := by
  subst hg
  obtain ⟨doomed, removing⟩ := dismantling.tasks id before hb
  exact ⟨doomed, removing.move move⟩

variable (entered : run.Entered goal after next)

include entered

/-- A move finds a resource deleted just when it takes that answer. -/
theorem deleted_of_move (own : ∀ exchange ∈ new, exchange.request.goal = goal)
    (unfinished : run.result? goal = none) (id : String) :
  next.result? (.delete id) = some (.ok .deleted)
    ↔ run.result? (.delete id) = some (.ok .deleted) ∨ ∃ exchange ∈ new, exchange.Deletes id
  := by
  by_cases hg : goal = .delete id
  · subst hg
    rw [unfinished, result?_eq_some, entered.progress?_eq, if_pos rfl, Option.some_inj]
    simpa using (dismantling.tasks id before hb).2.deleted_iff move
  · rw [(entered.kept (Ne.symm hg)).result?]
    constructor
    · exact .inl
    · rintro (finished | ⟨exchange, hm, deletes, -⟩)
      · apply finished
      · exact absurd ((own exchange hm).symm.trans deletes) hg

/-- When one of the tasks that remove resources moves, all of them are in order, also those that it asks for. -/
theorem tasks_of_move {progress : Progress} (hp : next.progress? (.delete id) = some progress) :
  id ∈ run.doomed ∧ run.Removing setting id progress
  := by
  by_cases hg : Goal.delete id = goal
  · rw [entered.progress?_eq, if_pos hg] at hp
    obtain rfl := Option.some.inj hp
    exact dismantling.removing_of_move hb move hg.symm
  · rw [entered.progress?_eq, if_neg hg] at hp
    cases hq : run.progress? (.delete id) with
    | some progress' =>
      rw [hq] at hp
      obtain rfl := Option.some.inj hp
      exact dismantling.tasks id _ hq
    | none =>
      rw [hq, Option.none_or] at hp
      split at hp
      · next asked =>
        cases hp
        obtain ⟨other, ho, he⟩ := List.mem_map.mp asked
        cases goal with
        | update _ => cases he
        | delete _ =>
          cases he
          cases (dismantling.removing_of_move hb move rfl).2 with
          | waiting =>
            refine ⟨?_, .ready⟩
            simpa using (List.mem_filter.mp ho).2
          | _ => cases ho
      · cases hp

include sound

/-- A provider is called to delete a resource only when its dependents have been dealt with. -/
theorem calls_of_move (h : run.step? setting goal = some next) {call : Call} (hc : call ∈ next.calls)
    (served : call.request.goal = .delete id) :
  id ∈ run.doomed ∧ setting.deletionPolicy id = .delete ∧ run.Cleared setting id
  := by
  rw [entered.calls_eq] at hc
  obtain hc | hc := List.mem_append.mp hc
  · apply dismantling.calls call hc id served
  · cases after with
    | calling request attempt since due =>
      obtain rfl := List.mem_singleton.mp hc
      have there : next.progress? goal = some (.calling request attempt since due) := by
        rw [entered.progress?_eq, if_pos rfl]
      have hg := ((sound.step h).1.goal_of_calling there).symm.trans served
      obtain ⟨listed, removing⟩ := dismantling.removing_of_move hb move hg
      cases removing with
      | calling policy cleared => exact ⟨listed, policy, cleared⟩
    | _ => cases hc

end

/-- A step keeps to the order of removals. -/
theorem step (dismantling : run.Dismantling setting) (sound : run.Sound setting) {goal : Goal}
    (h : run.step? setting goal = some next) :
  next.Dismantling setting
  := by
  obtain ⟨before, after, new, hb, move, entered, exchanges⟩ := step?_spec h
  have own := sound.own_of_move hb move
  have kept (other : Goal) (result : Except StackError Outcome) (finished : run.result? other = some result) :
      next.result? other = some result := result?_step h finished
  have doomed := entered.doomed_eq
  have answered := dismantling.deleted_of_move hb move entered own (result?_of_step h)
  -- A step takes one answer at most, and what it is an answer to is not over.
  have fresh {id : String} {exchange : Exchange} (hm : exchange ∈ new) (deletes : exchange.Deletes id) :
      goal = .delete id ∧ run.result? (.delete id) = none := by
    have hg := (own exchange hm).symm.trans deletes.1
    exact ⟨hg, hg ▸ result?_of_step h⟩
  constructor
  · rw [doomed]
    apply dismantling.recorded
  · intro id progress hp
    obtain ⟨listed, removing⟩ := dismantling.tasks_of_move hb move entered hp
    exact ⟨doomed ▸ listed, removing.later kept doomed⟩
  · intro call hc id served
    obtain ⟨listed, policy, cleared⟩ := dismantling.calls_of_move sound hb move entered h hc served
    exact ⟨doomed ▸ listed, policy, cleared.later kept doomed⟩
  · intro id
    rw [answered, dismantling.answered, exchanges]
    simp only [List.mem_append, or_and_right, exists_or]
  · intro first exchange last id split deletes
    rw [dependents_eq doomed]
    rw [exchanges] at split
    obtain rfl | ⟨taken, rfl⟩ := move.answers_cases
    · rw [List.append_nil] at split
      apply dismantling.preceded first exchange last id split deletes
    · apply dismantling.preceded_concat _ split deletes
      intro deletes
      obtain ⟨hg, -⟩ := fresh List.mem_cons_self deletes
      have finished := (answered id).mpr (.inr ⟨taken, List.mem_cons_self, deletes⟩)
      rw [result?_eq_some, entered.progress?_eq, if_pos hg.symm, Option.some_inj] at finished
      obtain ⟨-, removing⟩ := dismantling.removing_of_move hb move hg
      rw [finished] at removing
      cases removing with
      | deleted policy cleared => apply cleared
  · rw [exchanges, List.pairwise_append]
    refine ⟨dismantling.once, ?_, ?_⟩
    · obtain rfl | ⟨taken, rfl⟩ := move.answers_cases
      · apply List.Pairwise.nil
      · apply List.pairwise_singleton
    · intro earlier he later hl id deletes deletes'
      have finished := (dismantling.answered id).mpr ⟨earlier, he, deletes⟩
      rw [(fresh hl deletes').2] at finished
      cases finished

theorem wait (dismantling : run.Dismantling setting) (later : Nat) :
  ({ run with now := later } : Run σ).Dismantling setting
  := by
  have kept (goal : Goal) (result : Except StackError Outcome) (finished : run.result? goal = some result) :
      ({ run with now := later } : Run σ).result? goal = some result := by rw [result?_wait, finished]
  constructor
  · apply dismantling.recorded
  · intro id progress hp
    rw [progress?_wait] at hp
    obtain ⟨listed, removing⟩ := dismantling.tasks id progress hp
    exact ⟨listed, removing.later kept rfl⟩
  · intro call hc id served
    obtain ⟨listed, policy, cleared⟩ := dismantling.calls call hc id served
    exact ⟨listed, policy, cleared.later kept rfl⟩
  · intro id
    rw [result?_wait]
    apply dismantling.answered
  · apply dismantling.preceded
  · apply dismantling.once

end Dismantling

/-! ### Whole runs -/

/-- Resources that may be deleted remain so. -/
theorem Leads.doomed_eq {first : Run σ} {count : Nat} (leads : Leads setting first count run) :
  run.doomed = first.doomed
  := by
  apply leads.invariant fun run => run.doomed = first.doomed
  · intro run next goal same h
    obtain ⟨_, _, _, -, -, entered, -⟩ := step?_spec h
    rw [entered.doomed_eq, same]
  · intro run later same
    apply same
  · rfl

theorem Leads.dismantling {first : Run σ} {count : Nat} (leads : Leads setting first count run)
    (sound : first.Sound setting) (dismantling : first.Dismantling setting) :
  run.Dismantling setting
  := by
  have both : run.Sound setting ∧ run.Dismantling setting := by
    apply leads.invariant fun run => run.Sound setting ∧ run.Dismantling setting
    · rintro run next goal ⟨sound, dismantling⟩ h
      exact ⟨(sound.step h).1, dismantling.step sound h⟩
    · rintro run later ⟨sound, dismantling⟩
      exact ⟨(sound.wait later).1, dismantling.wait later⟩
    · exact ⟨sound, dismantling⟩
  exact both.2

/-- While declared resources are brought up to date, no provider is asked to delete any. -/
theorem Leads.uncalled {world : σ} {count : Nat} (leads : Leads setting (setting.requested world) count run) :
  ∀ call ∈ run.calls, ∀ id, call.request.goal ≠ .delete id
  := by
  induction leads with
  | here =>
    obtain ⟨_, _, he⟩ := requests_eq (setting.start world) (setting.desired.resources.names.map .update)
    rw [Setting.requested, he]
    rintro call ⟨⟩
  | @step _ run next goal leads h ih =>
    obtain ⟨before, after, _, hb, -, entered, -⟩ := step?_spec h
    intro call hc id served
    rw [entered.calls_eq] at hc
    obtain hc | hc := List.mem_append.mp hc
    · apply ih call hc id served
    · cases after with
      | calling request attempt since due =>
        obtain rfl := List.mem_singleton.mp hc
        have there : next.progress? goal = some (.calling request attempt since due) := by
          rw [entered.progress?_eq, if_pos rfl]
        have hg := (((leads.sound (setting.sound_requested world)).1.step h).1.goal_of_calling there).symm.trans served
        rw [hg, leads.no_deletion] at hb
        cases hb
      | _ => cases hc
  | wait _ _ ih => apply ih

/-- A run that goes on with the removal of some resources. -/
def removing (run : Run σ) (ids : List String) : Run σ :=
  (ids.map Goal.delete).foldl request { run with doomed := ids }

theorem progress?_removing (run : Run σ) (ids : List String) (goal : Goal) :
  (run.removing ids).progress? goal
    = (run.progress? goal).or (if goal ∈ ids.map Goal.delete then some .ready else none)
  := by
  rw [removing, progress?_requests]
  cases goal with
  | update id => rfl
  | delete id => rfl

@[simp]
theorem result?_removing (run : Run σ) (ids : List String) (id : String) :
  (run.removing ids).result? (.update id) = run.result? (.update id)
  := by
  simp [result?, progress?_removing]

@[simp]
theorem completed?_removing (run : Run σ) (ids : List String) (id : String) :
  (run.removing ids).completed? id = run.completed? id
  := by
  simp [completed?]

theorem doomed_removing (run : Run σ) (ids : List String) :
  (run.removing ids).doomed = ids
  := by
  obtain ⟨_, _, he⟩ := requests_eq { run with doomed := ids } (ids.map Goal.delete)
  rw [removing, he]

/-- The removal of recorded resources starts in order. -/
theorem Leads.dismantling_removing {world : σ} {count : Nat}
    (leads : Leads setting (setting.requested world) count run) {ids : List String}
    (recorded : ∀ id ∈ ids, setting.previous.resources.contains id) :
  (run.removing ids).Dismantling setting
  := by
  obtain ⟨sound, -⟩ := leads.sound (setting.sound_requested world)
  have ready (id : String) (progress : Progress)
      (hp : (run.removing ids).progress? (.delete id) = some progress) : id ∈ ids ∧ progress = .ready := by
    rw [progress?_removing, leads.no_deletion id, Option.none_or] at hp
    split at hp
    · next asked => exact ⟨by simpa using asked, (Option.some.inj hp).symm⟩
    · cases hp
  obtain ⟨updates, deletions, he⟩ := requests_eq { run with doomed := ids } (ids.map Goal.delete)
  have calls : (run.removing ids).calls = run.calls := by rw [removing, he]
  have exchanges : (run.removing ids).exchanges = run.exchanges := by rw [removing, he]
  have untouched (exchange : Exchange) (hm : exchange ∈ run.exchanges) (id : String) : ¬ exchange.Deletes id := by
    rintro ⟨served, -⟩
    have none := sound.unasked _ (leads.no_deletion id)
    simp only [answers, List.map_eq_nil_iff, List.filter_eq_nil_iff, decide_eq_true_eq] at none
    apply none exchange hm served
  constructor
  · rwa [doomed_removing]
  · intro id progress hp
    obtain ⟨listed, rfl⟩ := ready id progress hp
    rw [doomed_removing]
    exact ⟨listed, .ready⟩
  · intro call hc id served
    rw [calls] at hc
    exact absurd served (leads.uncalled call hc id)
  · intro id
    rw [exchanges]
    constructor
    · intro finished
      obtain ⟨-, he⟩ := ready id _ (result?_eq_some.mp finished)
      cases he
    · rintro ⟨exchange, hm, deletes⟩
      exact absurd deletes (untouched exchange hm id)
  · intro before exchange after id split deletes
    rw [exchanges] at split
    exact absurd deletes (untouched exchange (by simp [split]) id)
  · rw [exchanges]
    apply List.pairwise_of_forall_mem_list
    intro earlier he later _ id deletes
    exact absurd deletes (untouched earlier he id)

namespace Dismantling

variable (dismantling : run.Dismantling setting)

include dismantling

/-- When a provider is asked to delete a resource, its dependents have been dealt with. -/
theorem cleared_of_call (sound : run.Sound setting) {goal : Goal} (h : run.step? setting goal = some next)
    {call : Call} (begun : next.calls = run.calls ++ [call]) (served : call.request.goal = .delete id) :
  run.Cleared setting id
  := by
  obtain ⟨before, after, _, hb, move, entered, -⟩ := step?_spec h
  have called : after.begunCalls run.now = [call] := List.append_cancel_left (entered.calls_eq.symm.trans begun)
  cases after with
  | calling request attempt since due =>
    obtain rfl := List.singleton_inj.mp called
    have there : next.progress? goal = some (.calling request attempt since due) := by
      rw [entered.progress?_eq, if_pos rfl]
    obtain rfl := ((sound.step h).1.goal_of_calling there).symm.trans served
    cases (dismantling.tasks id before hb).2.move move with
    | calling policy cleared => apply cleared
  | _ => cases called

/-- No provider is asked to delete what is not to be deleted. -/
theorem uncalled_of_policy (policy : setting.deletionPolicy id ≠ .delete) :
  ∀ call ∈ run.calls, call.request.goal ≠ .delete id
  := fun call hc served => policy (dismantling.calls call hc id served).2.1

/-- No provider is asked to delete a resource with a dependent that failed. -/
theorem uncalled_of_failed {other : String} (needed : other ∈ setting.dependents run id) {error : StackError}
    (failed : run.result? (.delete other) = some (.error error)) :
  ∀ call ∈ run.calls, call.request.goal ≠ .delete id
  := by
  intro call hc served
  obtain ⟨outcome, cleared⟩ := (dismantling.calls call hc id served).2.2 other needed
  cases cleared.symm.trans failed

/-- A resource with a dependent that failed is reported with the first of them in alphabetical order. -/
theorem blocked (policy : setting.deletionPolicy id = .delete) {other : String}
    (needed : other ∈ setting.dependents run id) {error : StackError}
    (failed : run.result? (.delete other) = some (.error error)) {result : Except StackError Outcome}
    (finished : run.result? (.delete id) = some result) :
  ∃ first ∈ setting.dependents run id, (∃ error, run.result? (.delete first) = some (.error error))
    ∧ (∀ later ∈ setting.dependents run id,
        (∃ error, run.result? (.delete later) = some (.error error)) → first ≤ later)
    ∧ result = .error (.dependentNotDeleted id first)
  := by
  have uncleared : ¬ run.Cleared setting id := by
    intro cleared
    obtain ⟨outcome, ended⟩ := cleared other needed
    cases ended.symm.trans failed
  have cases := dismantling.cases_of_result finished
  rw [policy] at cases
  obtain ⟨cleared, -⟩ | ⟨first, before, after, error', split, cleared, failed', rfl⟩ := cases
  · exact absurd cleared uncleared
  · have sorted : (before ++ first :: after).Pairwise (· ≤ ·) := by
      rw [← split]
      exact (Graph.pairwise_dependents _ _).filter _
    refine ⟨first, ?_, ⟨error', failed'⟩, ?_, rfl⟩
    · rw [split]
      simp
    · rintro later hl ⟨error'', failed''⟩
      rw [split] at hl
      obtain hb | ha := List.mem_append.mp hl
      · obtain ⟨outcome, ended⟩ := cleared later hb
        cases ended.symm.trans failed''
      · obtain rfl | ha := List.mem_cons.mp ha
        · apply String.le_refl
        · exact List.rel_of_pairwise_cons (List.pairwise_append.mp sorted).2.1 ha

/-- Along a chain of dependents that are to be deleted, what depends on a resource has been deleted
before it, and is not deleted afterwards. -/
theorem ordered {other : String} (chain : Relation.TransGen
      (fun id other => other ∈ setting.dependents run id ∧ setting.deletionPolicy other = .delete) id other)
    {before after : List Exchange} {exchange : Exchange}
    (split : run.exchanges = before ++ exchange :: after) (deletes : exchange.Deletes id) :
  (∃ earlier ∈ before, earlier.Deletes other) ∧ ∀ later ∈ after, ¬ later.Deletes other
  := by
  have deleted : ∃ earlier ∈ before, earlier.Deletes other := by
    induction chain using Relation.TransGen.head_induction_on generalizing before exchange after with
    | single step => apply dismantling.preceded before exchange after _ split deletes other step.1 step.2
    | head step _ ih =>
      obtain ⟨middle, hm, deletes'⟩ := dismantling.preceded before exchange after _ split deletes _ step.1 step.2
      obtain ⟨first, second, rfl⟩ := List.append_of_mem hm
      rw [List.append_assoc, List.cons_append] at split
      obtain ⟨earlier, he, deleted⟩ := ih split deletes'
      exact ⟨earlier, List.mem_append_left _ he, deleted⟩
  use deleted
  obtain ⟨earlier, he, deleted⟩ := deleted
  intro later hl
  have once := dismantling.once
  rw [split, List.pairwise_append] at once
  apply once.2.2 earlier he later (List.mem_cons_of_mem _ hl) other deleted

end Dismantling

end Run

end Reconcile
