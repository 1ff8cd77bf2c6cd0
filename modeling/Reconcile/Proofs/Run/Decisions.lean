import Mathlib.Tactic.Common
import Reconcile.Proofs.Evaluation.Reads
import Reconcile.Proofs.Outcome
import Reconcile.Run.Step

/-!
# Decisions

What the task of a declared resource makes of its properties.  Once they are evaluated and nothing
is left to wait for, they are realized, an operation is decided, and the task finishes or calls a
provider.
-/

namespace Reconcile

/-- A resolution that can be realized settles the operation: without a recorded resource it is made,
with one it is changed if its properties differ. -/
theorem Decision.ofResolution_eq {previous : Option PhysicalResource} {hash : String}
    {resolution : Resolution} {properties : Json} (realized : resolution.realize = .ok properties) :
  Decision.ofResolution previous hash resolution
    = .ok (match previous with
        | none => { operation := .create }
        | some previous =>
          let patch := previous.inputProperties.diff properties
          { operation := if patch.isEmpty then .skip else .update, patch })
  := by
  cases previous with
  | none => rfl
  | some previous =>
    have resolved : resolution.isResolved := by
      rw [Resolution.isResolved, (Resolution.realize_eq_ok.mp realized).2]
      rfl
    unfold Decision.ofResolution
    simp only [resolved, if_true, realized]
    rfl

variable {σ : Type} {setting : Setting σ}

namespace Setting

/-- The request for a resource that is not skipped: to make it, or to change the recorded one. -/
def requestFor (setting : Setting σ) (logicalId : String) (resource : Resource) (properties : Json) : Request :=
  match setting.previous.resources.get? logicalId with
  | none => .create logicalId resource.type properties
  | some previous => .update logicalId resource.type properties previous

@[simp]
theorem type_requestFor (logicalId : String) (resource : Resource) (properties : Json) :
  (setting.requestFor logicalId resource properties).type = resource.type
  := by
  unfold requestFor
  split
  · rfl
  · rfl

/-- The properties of a resource were realized and an operation decided. -/
structure Decides (setting : Setting σ) (logicalId : String) (resource : Resource) (resolution : Resolution)
    (properties : Json) (decision : Decision) : Prop where
  realized : resolution.realize = .ok properties
  decided : Decision.ofResolution (setting.previous.resources.get? logicalId) (fingerprint resource.properties)
    resolution = .ok decision

theorem apply_eq_ok {run : Run σ} {logicalId : String} {resource : Resource} {resolution : Resolution}
    {progress : Progress} (h : setting.apply run logicalId resource resolution = .ok progress) :
  ∃ properties decision, setting.Decides logicalId resource resolution properties decision
    ∧ ((decision.operation = .skip ∧ ∃ previous, setting.previous.resources.get? logicalId = some previous
          ∧ progress = .finished (.ok (.applied (setting.applied logicalId properties previous) .skip)))
      ∨ decision.operation ≠ .skip
        ∧ progress = setting.call run.now (setting.requestFor logicalId resource properties) 1 run.now)
  := by
  obtain ⟨properties, realized, h⟩ := Except.bind_eq_ok.mp h
  obtain ⟨decision, decided, h⟩ := Except.bind_eq_ok.mp h
  refine ⟨properties, decision, ⟨realized, decided⟩, ?_⟩
  rw [Decision.ofResolution_eq realized] at decided
  unfold requestFor
  match hp : setting.previous.resources.get? logicalId with
  | none =>
    rw [hp] at decided h
    cases decided
    cases h
    exact .inr ⟨by simp, rfl⟩
  | some previous =>
    rw [hp] at decided h
    cases decided
    dsimp only at h ⊢
    by_cases same : (previous.inputProperties.diff properties).isEmpty
    · simp only [same, if_true] at h ⊢
      cases h
      exact .inl ⟨trivial, previous, rfl, rfl⟩
    · simp only [same] at h ⊢
      cases h
      exact .inr ⟨by simp, rfl⟩

theorem apply_eq_error {run : Run σ} {logicalId : String} {resource : Resource} {resolution : Resolution}
    {error : EvaluationError} :
  setting.apply run logicalId resource resolution = .error error ↔ resolution.realize = .error error
  := by
  constructor
  · intro h
    obtain h | ⟨properties, realized, h⟩ := Except.bind_eq_error.mp h
    · apply h
    · obtain h | ⟨decision, decided, h⟩ := Except.bind_eq_error.mp h
      · rw [Decision.ofResolution_eq realized] at h
        cases h
      · cases h
  · intro h
    apply Except.bind_eq_error.mpr (.inl h)

/-- An evaluation is applied when it brings up nothing that was not waited for; otherwise the task
waits for that. -/
theorem evaluate_eq_ok {run : Run σ} {logicalId : String} {resource : Resource} {awaited : List String}
    {progress : Progress} (h : setting.evaluate run logicalId resource awaited = .ok progress) :
  ∃ resolution, setting.desired.evaluate (run.capabilities setting) resource.desiredProperties = .ok resolution
    ∧ (((∀ id ∈ resolution.unresolvedResources, id ∈ awaited)
          ∧ setting.apply run logicalId resource resolution = .ok progress)
      ∨ ∃ pending, pending ≠ [] ∧ pending = resolution.unresolvedResources.filter (!awaited.contains ·)
        ∧ progress = .waiting pending (awaited ++ pending))
  := by
  obtain ⟨resolution, evaluated, h⟩ := Except.bind_eq_ok.mp h
  refine ⟨resolution, evaluated, ?_⟩
  split at h
  · next none =>
    refine .inl ⟨?_, h⟩
    intro id hid
    simpa using List.filter_eq_nil_iff.mp none id hid
  · next pending some =>
    cases h
    exact .inr ⟨_, some, rfl, rfl⟩

theorem call_cases (now : Nat) (request : Request) (attempt since : Nat) :
  (∃ provider, setting.providers.get request.type = .ok provider
      ∧ setting.call now request attempt since
        = .calling request attempt since (now + provider.duration request))
    ∨ ∃ error, setting.providers.get request.type = .error error
      ∧ setting.call now request attempt since = .finished (.error error)
  := by
  unfold call
  match setting.providers.get request.type with
  | .error error => exact .inr ⟨error, rfl, rfl⟩
  | .ok provider => exact .inl ⟨provider, rfl, rfl⟩

/-! ### Attempts -/

/-- The number of attempts at a call, of which there is always one. -/
def attempts (setting : Setting σ) : Nat := max setting.config.retry.maxAttempts 1

/-- The number of attempts at a call of a kind; calls that a provider does not allow to be repeated have
only one. -/
def tries (setting : Setting σ) (provider : Provider σ) (kind : CallKind) : Nat :=
  if provider.retryPolicy.allows kind then setting.attempts else 1

theorem one_le_tries (setting : Setting σ) (provider : Provider σ) (kind : CallKind) :
  1 ≤ setting.tries provider kind
  := by
  unfold tries attempts
  split
  · apply Nat.le_max_right _ _
  · apply Nat.le_refl _

/-- After a failed attempt there is another one until they have been used up. -/
theorem delay?_eq_none {provider : Provider σ} {request : Request} {attempt : Nat} (h : 1 ≤ attempt) :
  setting.delay? provider request attempt = none ↔ setting.tries provider request.kind ≤ attempt
  := by
  unfold delay? tries
  split
  · unfold Retry.delay? Retry.retries attempts
    split
    · next earlier =>
      simp only [reduceCtorEq, false_iff]
      omega
    · next late =>
      simp only [true_iff]
      omega
  · simpa using h

end Setting

end Reconcile
