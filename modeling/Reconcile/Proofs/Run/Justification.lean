import Mathlib.Tactic.Common
import Reconcile.Proofs.Run.Knowledge

/-!
# Why tasks are where they are

How far the task of a declared resource has come is justified by the results that a run has so
far, by what its properties evaluate to, and by the answers that providers gave to it.  A move
of the task leads from one justification to another.
-/

namespace Reconcile

variable {σ : Type}

/-- The goal that a request serves. -/
def Request.goal : Request → Goal
  | .create logicalId _ _ | .update logicalId _ _ _ => .update logicalId
  | .delete logicalId _ _ => .delete logicalId

@[simp]
theorem Setting.goal_requestFor (setting : Setting σ) (id : String) (resource : Resource) (properties : Json) :
  (setting.requestFor id resource properties).goal = .update id
  := by
  unfold requestFor
  split
  · rfl
  · rfl

/-- All of some answers are failures. -/
def Refusals (answers : List Answer) : Prop := ∀ answer ∈ answers, ∃ messages, answer = .error messages

theorem Refusals.nil :
  Refusals []
  := nofun

theorem Refusals.concat {answers : List Answer} (h : Refusals answers) (messages : List String) :
  Refusals (answers ++ [.error messages])
  := by
  intro answer ha
  obtain ha | ha := List.mem_append.mp ha
  · apply h answer ha
  · exact ⟨messages, List.mem_singleton.mp ha⟩

namespace Run

variable (setting : Setting σ) (run : Run σ) (answers : List Answer) (id : String) (resource : Resource)

/-- Nothing stands between a resource and its operation: it takes part, what it depends on has ended well,
and its properties are known. -/
structure Prepared (properties : Json) (decision : Decision) : Prop where
  active : setting.inputs.conditions.isActive resource.condition = .ok true
  preceded : ∀ other ∈ resource.dependsOn, run.EndsWell other
  resolved : ∃ resolution,
    setting.desired.evaluate (run.capabilities setting) resource.desiredProperties = .ok resolution
      ∧ setting.Decides id resource resolution properties decision

/-- Something keeps a resource from being applied, in this run and in all later ones. -/
inductive Thwarted : Prop where
  | inactive {error : EvaluationError} (failed : setting.inputs.conditions.isActive resource.condition = .error error)
  | unpreceded {other : String} {error : StackError} (needed : other ∈ resource.dependsOn)
      (failed : run.result? (.update other) = some (.error error))
  | unsupplied {other : String} {error : StackError} (seeks : run.Seeks setting resource other)
      (failed : run.result? (.update other) = some (.error error))
  | unresolved {error : EvaluationError}
      (failed : setting.desired.evaluate (run.capabilities setting) resource.desiredProperties = .error error)
  | unserved {properties : Json} {decision : Decision} {error : StackError}
      (prepared : run.Prepared setting id resource properties decision) (calls : decision.operation ≠ .skip)
      (missing : setting.providers.get resource.type = .error error)
  | exhausted {properties : Json} {decision : Decision} {provider : Provider σ}
      (prepared : run.Prepared setting id resource properties decision) (calls : decision.operation ≠ .skip)
      (serving : setting.providers.get resource.type = .ok provider) (refused : Refusals answers)
      (spent : answers.length = setting.tries provider (setting.requestFor id resource properties).kind)

/-- The reason why the task of a declared resource, which got these answers, has come this far. -/
inductive Justified : Progress → Prop where
  | ready (untried : answers = []) : Justified .ready
  | preceding (untried : answers = [])
      (active : setting.inputs.conditions.isActive resource.condition = .ok true) :
    Justified (.waiting resource.dependsOn [])
  | seeking {on awaited : List String} (untried : answers = [])
      (active : setting.inputs.conditions.isActive resource.condition = .ok true)
      (preceded : ∀ other ∈ resource.dependsOn, run.EndsWell other)
      (within : ∀ other ∈ on, other ∈ awaited)
      (supplied : ∀ other ∈ awaited, other ∉ on → run.EndsWell other)
      (seeks : ∀ other ∈ awaited, run.Seeks setting resource other) :
    Justified (.waiting on awaited)
  | calling {properties : Json} {decision : Decision} {provider : Provider σ} {attempt since due : Nat}
      (prepared : run.Prepared setting id resource properties decision) (calls : decision.operation ≠ .skip)
      (serving : setting.providers.get resource.type = .ok provider) (refused : Refusals answers)
      (counted : answers.length + 1 = attempt)
      (allowed : attempt ≤ setting.tries provider (setting.requestFor id resource properties).kind) :
    Justified (.calling (setting.requestFor id resource properties) attempt since due)
  | resting {properties : Json} {decision : Decision} {provider : Provider σ} {attempt since due : Nat}
      (prepared : run.Prepared setting id resource properties decision) (calls : decision.operation ≠ .skip)
      (serving : setting.providers.get resource.type = .ok provider) (refused : Refusals answers)
      (counted : answers.length = attempt)
      (allowed : attempt < setting.tries provider (setting.requestFor id resource properties).kind) :
    Justified (.resting (setting.requestFor id resource properties) attempt since due)
  | skipped {properties : Json} {decision : Decision} {previous : PhysicalResource}
      (prepared : run.Prepared setting id resource properties decision) (skips : decision.operation = .skip)
      (recorded : setting.previous.resources.get? id = some previous) :
    Justified (.finished (.ok (.applied (setting.applied id properties previous) .skip)))
  | succeeded {properties : Json} {decision : Decision} {provider : Provider σ} {reply : Reply}
      {refusals : List Answer}
      (prepared : run.Prepared setting id resource properties decision) (calls : decision.operation ≠ .skip)
      (serving : setting.providers.get resource.type = .ok provider) (refused : Refusals refusals)
      (answered : answers = refusals ++ [.ok reply])
      (allowed : answers.length ≤ setting.tries provider (setting.requestFor id resource properties).kind) :
    Justified (.finished (.ok (.applied (setting.applied id properties reply.resource) decision.operation)))
  | excluded (inactive : setting.inputs.conditions.isActive resource.condition = .ok false) :
    Justified (.finished (.ok .excluded))
  | thwarted {error : StackError}
      (included : setting.inputs.conditions.isActive resource.condition ≠ .ok false)
      (thwarted : run.Thwarted setting answers id resource) :
    Justified (.finished (.error error))

variable {setting run answers id resource}

/-! ### Justifications last -/

theorem Prepared.since {properties : Json} {decision : Decision} {next : Run σ}
    (prepared : run.Prepared setting id resource properties decision) (since : Since setting run next) :
  next.Prepared setting id resource properties decision
  := by
  obtain ⟨active, preceded, resolution, evaluated, decides⟩ := prepared
  refine ⟨active, fun other ho => since.endsWell (preceded other ho), resolution, ?_, decides⟩
  apply setting.desired.evaluate_of_extends since.knows evaluated
  exact (Resolution.realize_eq_ok.mp decides.realized).2

/-- The properties and the decision are determined. -/
theorem Prepared.unique {properties properties' : Json} {decision decision' : Decision}
    (prepared : run.Prepared setting id resource properties decision)
    (prepared' : run.Prepared setting id resource properties' decision') :
  properties' = properties ∧ decision' = decision
  := by
  obtain ⟨resolution, evaluated, realized, decided⟩ := prepared.resolved
  obtain ⟨resolution', evaluated', realized', decided'⟩ := prepared'.resolved
  obtain rfl := Except.ok.inj (evaluated.symm.trans evaluated')
  exact ⟨Except.ok.inj (realized'.symm.trans realized), Except.ok.inj (decided'.symm.trans decided)⟩

/-- What the properties of a prepared resource ask for was applied. -/
theorem Prepared.endsWell {properties : Json} {decision : Decision} {other : String}
    (prepared : run.Prepared setting id resource properties decision)
    (seeks : run.Seeks setting resource other) :
  run.EndsWell other
  := by
  obtain ⟨resolution, evaluated, decides⟩ := prepared.resolved
  have sought := seeks resolution evaluated
  rw [(Resolution.realize_eq_ok.mp decides.realized).2] at sought
  obtain ⟨finding, found⟩ := (setting.desired.find_of_evaluate evaluated).1 _ (sought.resolve_right nofun)
  obtain ⟨physical, completed⟩ := completed_of_find found
  obtain ⟨operation, finished⟩ := completed?_eq_some.mp completed
  exact ⟨_, finished⟩

theorem Thwarted.since {next : Run σ} (thwarted : run.Thwarted setting answers id resource)
    (since : Since setting run next) :
  next.Thwarted setting answers id resource
  := by
  cases thwarted with
  | inactive failed => exact .inactive failed
  | unpreceded needed failed => exact .unpreceded needed (since.kept _ _ failed)
  | unsupplied seeks failed => exact .unsupplied (seeks.extends since.knows) (since.kept _ _ failed)
  | unresolved failed =>
    obtain ⟨error, failed⟩ := setting.desired.exists_error_of_extends since.knows failed
    exact .unresolved failed
  | unserved prepared calls missing => exact .unserved (prepared.since since) calls missing
  | exhausted prepared calls serving refused spent =>
    exact .exhausted (prepared.since since) calls serving refused spent

theorem Justified.since {next : Run σ} {progress : Progress}
    (justified : run.Justified setting answers id resource progress) (since : Since setting run next) :
  next.Justified setting answers id resource progress
  := by
  cases justified with
  | ready untried => exact .ready untried
  | preceding untried active => exact .preceding untried active
  | seeking untried active preceded within supplied seeks =>
    exact .seeking untried active (fun other ho => since.endsWell (preceded other ho)) within
      (fun other ho hn => since.endsWell (supplied other ho hn)) fun other ho => (seeks other ho).extends since.knows
  | calling prepared calls serving refused counted allowed =>
    exact .calling (prepared.since since) calls serving refused counted allowed
  | resting prepared calls serving refused counted allowed =>
    exact .resting (prepared.since since) calls serving refused counted allowed
  | skipped prepared skips recorded => exact .skipped (prepared.since since) skips recorded
  | succeeded prepared calls serving refused answered allowed =>
    exact .succeeded (prepared.since since) calls serving refused answered allowed
  | excluded inactive => exact .excluded inactive
  | thwarted included thwarted => exact .thwarted included (thwarted.since since)

/-! ### Waiting -/

theorem mem_of_firstFailed? {goal : Goal} {on : List String} {other : String}
    (h : run.firstFailed? goal on = some other) :
  other ∈ on ∧ ∃ error, run.result? (goal.withId other) = some (.error error)
  := by
  refine ⟨List.mem_of_find?_eq_some h, ?_⟩
  have holds := List.find?_some h
  split at holds
  · next error failed => exact ⟨error, failed⟩
  · cases holds

/-- A task that all have let go on has waited for none that failed. -/
theorem endsWell_of_firstFailed? {on : List String}
    (ended : ∀ other ∈ on, (run.result? (.update other)).isSome)
    (h : run.firstFailed? (.update id) on = none) :
  ∀ other ∈ on, run.EndsWell other
  := by
  intro other ho
  obtain ⟨result, finished⟩ := Option.isSome_iff_exists.mp (ended other ho)
  have unfailed := List.find?_eq_none.mp h other ho
  rw [Goal.withId_update, finished] at unfailed
  cases result with
  | error error => simp at unfailed
  | ok outcome => exact ⟨outcome, finished⟩

/-- When a task can go on, everything has ended well that it has ever waited for. -/
theorem Justified.supplied {on awaited : List String}
    (justified : run.Justified setting answers id resource (.waiting on awaited))
    (endsWell : ∀ other ∈ on, run.EndsWell other) :
  ∀ other ∈ awaited, run.EndsWell other
  := by
  cases justified with
  | preceding untried active => exact List.forall_mem_nil _
  | seeking untried active preceded within supplied seeks =>
    intro other ho
    by_cases hn : other ∈ on
    · apply endsWell other hn
    · apply supplied other ho hn

/-! ### Moves keep to the justification -/

theorem Justified.begin (declared : setting.desired.resources.get? id = some resource) :
  run.Justified setting [] id resource (setting.begin run (.update id))
  := by
  unfold Setting.begin
  simp only [declared]
  split
  · next error failed => exact .thwarted (by simp [failed]) (.inactive failed)
  · next inactive => exact .excluded inactive
  · next active => exact .preceding rfl active

/-- A call of the provider is begun, unless there is none. -/
theorem Justified.call {properties : Json} {decision : Decision}
    (prepared : run.Prepared setting id resource properties decision) (calls : decision.operation ≠ .skip) :
  run.Justified setting [] id resource
    (setting.call run.now (setting.requestFor id resource properties) 1 run.now)
  := by
  obtain ⟨provider, serving, hc⟩ | ⟨error, missing, hc⟩ :=
    setting.call_cases run.now (setting.requestFor id resource properties) 1 run.now
  · rw [Setting.type_requestFor] at serving
    rw [hc]
    exact .calling prepared calls serving .nil rfl (setting.one_le_tries _ _)
  · rw [Setting.type_requestFor] at missing
    rw [hc]
    exact .thwarted (by simp [prepared.active]) (.unserved prepared calls missing)

/-- When everything that was waited for has ended well, nothing is left unresolved. -/
theorem unresolved_eq_nil {resolution : Resolution} {awaited : List String}
    (settled : ∀ other, run.EndsWell other → (run.capabilities setting).find (.resource other) ≠ .ok none)
    (evaluated : setting.desired.evaluate (run.capabilities setting) resource.desiredProperties = .ok resolution)
    (supplied : ∀ other ∈ awaited, run.EndsWell other)
    (within : ∀ other ∈ resolution.unresolvedResources, other ∈ awaited) :
  resolution.unresolved = []
  := by
  apply List.eq_nil_iff_forall_not_mem.mpr
  intro d hd
  have missed := (setting.desired.find_of_evaluate evaluated).2 d hd
  obtain ⟨other, rfl, -, -⟩ := find_eq_none missed
  have sought : other ∈ resolution.unresolvedResources := List.mem_filterMap.mpr ⟨_, hd, rfl⟩
  apply settled other (supplied other (within other sought)) missed

theorem Justified.proceed {awaited : List String}
    (settled : ∀ other, run.EndsWell other → (run.capabilities setting).find (.resource other) ≠ .ok none)
    (declared : setting.desired.resources.get? id = some resource)
    (active : setting.inputs.conditions.isActive resource.condition = .ok true)
    (preceded : ∀ other ∈ resource.dependsOn, run.EndsWell other)
    (supplied : ∀ other ∈ awaited, run.EndsWell other)
    (seeks : ∀ other ∈ awaited, run.Seeks setting resource other) :
  run.Justified setting [] id resource (setting.proceed run awaited (.update id))
  := by
  unfold Setting.proceed
  simp only [declared]
  split
  · next error failed =>
    obtain failed | ⟨resolution, evaluated, failed⟩ := Except.bind_eq_error.mp failed
    · exact .thwarted (by simp [active]) (.unresolved failed)
    · split at failed
      · next none =>
        -- An evaluation that has nothing left to wait for can be realized.
        have resolved := unresolved_eq_nil settled evaluated supplied fun other ho => by
          simpa using List.filter_eq_nil_iff.mp none other ho
        obtain ⟨value, realized⟩ := setting.desired.exists_realize evaluated resolved
        rw [Setting.apply_eq_error, realized] at failed
        cases failed
      · cases failed
  · next progress proceeded =>
    obtain ⟨resolution, evaluated, ⟨-, applied⟩ | ⟨pending, -, hp, rfl⟩⟩ := Setting.evaluate_eq_ok proceeded
    · obtain ⟨properties, decision, decides, ⟨skips, previous, recorded, rfl⟩ | ⟨calls, rfl⟩⟩ :=
        Setting.apply_eq_ok applied
      · exact .skipped ⟨active, preceded, resolution, evaluated, decides⟩ skips recorded
      · exact .call ⟨active, preceded, resolution, evaluated, decides⟩ calls
    · apply Justified.seeking rfl active preceded
      · intro other ho
        apply List.mem_append_right _ ho
      · intro other ho hn
        apply supplied other ((List.mem_append.mp ho).resolve_right hn)
      · intro other ho
        obtain ho | ho := List.mem_append.mp ho
        · apply seeks other ho
        · intro resolution' evaluated'
          obtain rfl := Except.ok.inj (evaluated.symm.trans evaluated')
          rw [hp] at ho
          obtain ⟨d, hd, he⟩ := List.mem_filterMap.mp (List.mem_of_mem_filter ho)
          cases d with
          | resource _ =>
            cases he
            exact .inr hd
          | _ => cases he

/-- What an operation leaves is determined by the reply. -/
theorem outcome_requestFor {properties : Json} {decision : Decision} {resolution : Resolution}
    (decides : setting.Decides id resource resolution properties decision)
    (calls : decision.operation ≠ .skip) (reply : Reply) :
  setting.outcome reply (setting.requestFor id resource properties)
    = .applied (setting.applied id properties reply.resource) decision.operation
  := by
  have decided := decides.decided
  rw [Decision.ofResolution_eq decides.realized] at decided
  unfold Setting.requestFor
  match hp : setting.previous.resources.get? id with
  | none =>
    rw [hp] at decided
    cases decided
    rfl
  | some previous =>
    rw [hp] at decided
    cases decided
    dsimp only at calls ⊢
    split at calls
    · exact absurd rfl calls
    · next changed =>
      rw [if_neg changed]
      rfl

/-- A move of the task of a declared resource keeps to the justification; the answers that it takes are
added to those before. -/
theorem Justified.move {before after : Progress} {new : List Exchange}
    (settled : ∀ other, run.EndsWell other → (run.capabilities setting).find (.resource other) ≠ .ok none)
    (declared : setting.desired.resources.get? id = some resource)
    (justified : run.Justified setting answers id resource before)
    (move : Move setting run (.update id) before after new) :
  run.Justified setting (answers ++ new.map (·.answer)) id resource after
  := by
  cases move with
  | begun =>
    obtain ⟨rfl⟩ := justified
    exact .begin declared
  | blocked ended first =>
    obtain ⟨ho, error, failed⟩ := mem_of_firstFailed? first
    cases justified with
    | preceding untried active => exact .thwarted (by simp [active]) (.unpreceded ho failed)
    | seeking untried active preceded within supplied seeks =>
      exact .thwarted (by simp [active]) (.unsupplied (seeks _ (within _ ho)) failed)
  | @proceeded on _ ended unfailed =>
    have endsWell := endsWell_of_firstFailed? ended unfailed
    have supplied := justified.supplied endsWell
    cases justified with
    | preceding untried active =>
      obtain rfl := untried
      exact .proceed settled declared active endsWell supplied (List.forall_mem_nil _)
    | seeking untried active preceded within _ seeks =>
      obtain rfl := untried
      exact .proceed settled declared active preceded supplied seeks
  | unserved missing =>
    cases justified with
    | calling prepared calls serving refused counted allowed =>
      rw [Setting.type_requestFor, serving] at missing
      cases missing
  | succeeded served answer =>
    cases justified with
    | calling prepared calls serving refused counted allowed =>
      obtain ⟨resolution, -, decides⟩ := prepared.resolved
      rw [outcome_requestFor decides calls]
      apply Justified.succeeded prepared calls serving refused rfl
      simpa [counted] using allowed
  | @delayed _ attempt _ _ _ _ messages served answer again =>
    cases justified with
    | calling prepared calls serving refused counted allowed =>
      rw [Setting.type_requestFor, serving] at served
      obtain rfl := Except.ok.inj served
      have first : 1 ≤ attempt := by omega
      apply Justified.resting prepared calls serving (refused.concat messages)
      · simpa using counted
      · apply Nat.lt_of_not_le
        intro spent
        rw [(Setting.delay?_eq_none first).mpr spent] at again
        cases again
  | @failed _ attempt _ _ _ messages served answer last =>
    cases justified with
    | calling prepared calls serving refused counted allowed =>
      rw [Setting.type_requestFor, serving] at served
      obtain rfl := Except.ok.inj served
      apply Justified.thwarted (by simp [prepared.active])
      apply Thwarted.exhausted prepared calls serving (refused.concat messages)
      have first : 1 ≤ attempt := by omega
      have spent := (Setting.delay?_eq_none first).mp last
      rw [List.length_append, List.length_singleton, counted]
      apply Nat.le_antisymm allowed spent
  | @resumed request attempt since due =>
    rw [List.map_nil, List.append_nil]
    cases justified with
    | resting prepared calls serving refused counted allowed =>
      obtain ⟨provider, served, hc⟩ | ⟨error, missing, hc⟩ :=
        setting.call_cases run.now (setting.requestFor id resource _) (attempt + 1) since
      · rw [hc]
        exact .calling prepared calls serving refused (by omega) allowed
      · rw [Setting.type_requestFor, serving] at missing
        cases missing

end Run

end Reconcile
