import Mathlib.Tactic.Common
import Reconcile.Proofs.Run.Transcript
import Reconcile.Proofs.Table
import Reconcile.Provider.InMemory

/-!
# What is in the stores

A resource is put into the store of the type that was asked for when it is made or changed, and taken
out of the store of the type that was asked for when it is deleted.  So the answers that were given tell
what is in the stores.
-/

namespace Reconcile

namespace Memory

/-- A store has a resource with a physical id. -/
def Holds (memory : Memory) (name physicalId : String) : Prop := (memory.store name).contains physicalId

variable {memory : Memory} {name physicalId : String}

theorem mem_physicalIds :
  physicalId ∈ memory.physicalIds ↔ ∃ name, memory.Holds name physicalId
  := by
  unfold physicalIds Holds store
  simp only [List.mem_flatMap, Table.mem_values, Table.contains_iff]
  constructor
  · rintro ⟨store, ⟨name, found⟩, listed⟩
    use name
    rwa [found]
  · rintro ⟨name, listed⟩
    cases found : memory.stores.get? name with
    | none =>
      rw [found] at listed
      cases listed
    | some store =>
      rw [found] at listed
      exact ⟨store, ⟨name, found⟩, listed⟩

theorem holds_put (resource : PhysicalResource) (other otherId : String) :
  (memory.put name physicalId resource).Holds other otherId
    ↔ other = name ∧ otherId = physicalId ∨ memory.Holds other otherId
  := by
  unfold Holds store put Table.contains
  rw [Table.get?_insert]
  by_cases same : other = name
  · simp only [same, if_true, Option.getD_some, Table.get?_insert]
    by_cases same' : otherId = physicalId
    · simp [same']
    · simp [same', store]
  · simp [same]

theorem holds_remove (other otherId : String) :
  (memory.remove name physicalId).Holds other otherId
    ↔ memory.Holds other otherId ∧ ¬ (other = name ∧ otherId = physicalId)
  := by
  unfold Holds store remove Table.contains
  rw [Table.get?_insert]
  by_cases same : other = name
  · simp only [same, if_true, Option.getD_some, Option.isSome_iff_exists, Table.get?_filter, exists_and_right, store]
    simp
  · simp [same]

end Memory

/-! ### Answers -/

/-- Every type is served by a provider in memory with a store of its own. -/
def Providers.Housed (providers : Providers Memory) : Prop :=
  ∀ type, ∃ settings : InMemory, settings.store = type ∧ providers.get type = .ok settings.provider

namespace Exchange

/-- A provider has made or changed the resource of a type with a physical id. -/
def Stores (exchange : Exchange) (type physicalId : String) : Prop :=
  exchange.request.kind ≠ .delete ∧ exchange.request.type = type
    ∧ ∃ reply, exchange.answer = .ok reply ∧ reply.resource.physicalId = some physicalId

/-- A provider has deleted the resource of a type with a physical id. -/
def Discards (exchange : Exchange) (type physicalId : String) : Prop :=
  ∃ id previous reply, exchange = ⟨.delete id type previous, .ok reply⟩ ∧ previous.physicalId = some physicalId

/-- The physical id of the resource that a provider has made. -/
def generated? : Exchange → Option String
  | ⟨.create _ _ _, .ok reply⟩ => reply.resource.physicalId
  | _ => none

end Exchange

namespace InMemory

variable {settings : InMemory} {request : Request} {memory : Memory}

/-- What is returned has the type that was asked for and a physical id, which is the one it had before if it was
only changed. -/
theorem resource_of_answer {reply : Reply} (kind : request.kind ≠ .delete)
    (answer : (settings.answer request memory).1 = .ok reply) :
  reply.resource.type = request.type
    ∧ ∃ physicalId, reply.resource.physicalId = some physicalId
        ∧ ∀ id type properties previous, request = .update id type properties previous →
            previous.physicalId = some physicalId
  := by
  cases request with
  | create id type properties =>
    cases answer
    exact ⟨rfl, _, rfl, nofun⟩
  | update id type properties previous =>
    unfold InMemory.answer at answer
    cases known : previous.physicalId with
    | none => simp [known] at answer
    | some physicalId =>
      simp only [known, Except.ok.injEq] at answer
      subst answer
      refine ⟨rfl, physicalId, rfl, ?_⟩
      rintro _ _ _ _ ⟨⟩
      exact known
  | delete => exact absurd rfl kind

/-- What is returned for a resource has been put into the store. -/
theorem holds_put_of_kind {id : String} {resource : PhysicalResource} (padding : Option Nat)
    (kind : request.kind ≠ .delete) (known : resource.physicalId = some id) (type physicalId : String) :
  (memory.put request.type id resource).Holds type physicalId
    ↔ Exchange.Stores ⟨request, .ok { resource, padding }⟩ type physicalId
      ∨ memory.Holds type physicalId ∧ ¬ Exchange.Discards ⟨request, .ok { resource, padding }⟩ type physicalId
  := by
  have kept : ¬ Exchange.Discards ⟨request, .ok { resource, padding }⟩ type physicalId := by
    rintro ⟨_, _, _, ⟨⟩, -⟩
    apply kind rfl
  rw [Memory.holds_put]
  simp [Exchange.Stores, kind, known, kept, eq_comm]

/-- What an answer makes of the stores. -/
theorem holds_answer (memory : Memory) (named : settings.store = request.type) (type physicalId : String) :
  (settings.answer request memory).2.Holds type physicalId
    ↔ Exchange.Stores ⟨request, (settings.answer request memory).1⟩ type physicalId
      ∨ memory.Holds type physicalId
          ∧ ¬ Exchange.Discards ⟨request, (settings.answer request memory).1⟩ type physicalId
  := by
  cases request with
  | create id asked properties =>
    obtain rfl : settings.store = asked := named
    have kind : (Request.create id settings.store properties).kind ≠ .delete := nofun
    apply holds_put_of_kind settings.padding kind rfl
  | update id asked properties previous =>
    obtain rfl : settings.store = asked := named
    have kind : (Request.update id settings.store properties previous).kind ≠ .delete := nofun
    cases known : previous.physicalId with
    | none => simp [InMemory.answer, Exchange.Stores, Exchange.Discards, known]
    | some own =>
      have answered : settings.answer (.update id settings.store properties previous) memory
          = (.ok { resource := .materialize settings.store own properties, padding := settings.padding },
            memory.put settings.store own (.materialize settings.store own properties)) := by
        simp [InMemory.answer, known]
      rw [answered]
      apply holds_put_of_kind settings.padding kind rfl
  | delete id asked previous =>
    obtain rfl : settings.store = asked := named
    have unstored (answer : Answer) : ¬ Exchange.Stores ⟨.delete id settings.store previous, answer⟩ type physicalId :=
      fun stores => stores.1 rfl
    cases known : previous.physicalId with
    | none => simp [InMemory.answer, unstored, Exchange.Discards, known]
    | some own => simp [InMemory.answer, unstored, Exchange.Discards, known, Memory.holds_remove, eq_comm]

end InMemory

/-! ### All answers -/

section

variable (exchanges later : List Exchange) (type physicalId : String)

/-- The resource of a type with a physical id has been made or changed. -/
def Stored : Prop := ∃ exchange ∈ exchanges, exchange.Stores type physicalId

/-- The resource of a type with a physical id has been deleted. -/
def Discarded : Prop := ∃ exchange ∈ exchanges, exchange.Discards type physicalId

@[simp]
theorem stored_append :
  Stored (exchanges ++ later) type physicalId ↔ Stored exchanges type physicalId ∨ Stored later type physicalId
  := by simp only [Stored, List.mem_append, or_and_right, exists_or]

@[simp]
theorem discarded_append :
  Discarded (exchanges ++ later) type physicalId
    ↔ Discarded exchanges type physicalId ∨ Discarded later type physicalId
  := by simp only [Discarded, List.mem_append, or_and_right, exists_or]

@[simp]
theorem stored_singleton (exchange : Exchange) :
  Stored [exchange] type physicalId ↔ exchange.Stores type physicalId
  := by simp [Stored]

@[simp]
theorem discarded_singleton (exchange : Exchange) :
  Discarded [exchange] type physicalId ↔ exchange.Discards type physicalId
  := by simp [Discarded]

end

/-- While no resource is deleted that is made or changed, too, the order of the answers does not matter to the
stores. -/
theorem Transcript.holds_iff {providers : Providers Memory} (housed : providers.Housed) {first memory : Memory}
    {exchanges : List Exchange} (transcript : Transcript providers first exchanges memory)
    (apart : ∀ type physicalId, Stored exchanges type physicalId → ¬ Discarded exchanges type physicalId)
    (type physicalId : String) :
  memory.Holds type physicalId
    ↔ Stored exchanges type physicalId ∨ first.Holds type physicalId ∧ ¬ Discarded exchanges type physicalId
  := by
  induction transcript with
  | nil => simp [Stored, Discarded]
  | @concat exchanges memory request provider before serving ih =>
    obtain ⟨settings, named, serving'⟩ := housed request.type
    obtain rfl := Except.ok.inj (serving.symm.trans serving')
    have held := InMemory.holds_answer memory named type physicalId
    have apart' := apart type physicalId
    simp only [stored_append, discarded_append, stored_singleton, discarded_singleton] at apart' ⊢
    rw [ih fun type physicalId stored discarded => apart type physicalId
      ((stored_append _ _ _ _).mpr (.inl stored)) ((discarded_append _ _ _ _).mpr (.inl discarded))] at held
    change (settings.answer request memory).2.Holds type physicalId ↔ _
    rw [held]
    constructor
    · rintro (stored | ⟨stored | ⟨held, kept⟩, kept'⟩)
      · exact .inl (.inr stored)
      · exact .inl (.inl stored)
      · exact .inr ⟨held, not_or_intro kept kept'⟩
    · rintro ((stored | stored) | ⟨held, kept⟩)
      · have kept := apart' (.inl stored)
        exact .inr ⟨.inl stored, fun discarded => kept (.inr discarded)⟩
      · exact .inl stored
      · obtain ⟨kept, kept'⟩ := not_or.mp kept
        exact .inr ⟨.inr ⟨held, kept⟩, kept'⟩

end Reconcile
