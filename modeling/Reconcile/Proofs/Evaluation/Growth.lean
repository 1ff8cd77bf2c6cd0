import Mathlib.Tactic.Common
import Reconcile.Proofs.Evaluation.Reads

/-!
# Repeated evaluations

An evaluation is repeated when more has become available.  A failure remains one, and so does a
result of which nothing is pending.  Whatever was asked for before is asked for again, for what
is pending keeps an evaluation from nothing but the uses of the missing value.
-/

namespace Reconcile

variable {α β γ : Type}

/-- A bundle says what another does, and possibly more. -/
def Capabilities.Extends (capabilities capabilities' : Capabilities) : Prop :=
  ∀ dependency, capabilities.find dependency ≠ .ok none → capabilities.Agree capabilities' dependency

namespace Evaluation

/-- What is later known of a computation.  Its result is pending unless it was `ready` to begin with
and left nothing unresolved. -/
structure Below (pending : α → Prop) (ready : Prop) (first second : Evaluation α) : Prop where
  failed : ∀ {error}, first = .failed error → ∃ error', second = .failed error'
  pending_iff : ∀ {a footprint}, first = .ended a footprint →
    (pending a ↔ ¬ (ready ∧ footprint.unresolved = []))
  same : ∀ {a footprint}, first = .ended a footprint → ready → footprint.unresolved = [] → second = first
  sought : ∀ {a b footprint footprint'}, first = .ended a footprint → second = .ended b footprint' →
    ∀ d ∈ footprint.all, d ∈ footprint'.all

theorem andThen_assoc (first : Evaluation α) (next : α → Evaluation β) (last : β → Evaluation γ) :
  (first.andThen next).andThen last = first.andThen fun a => (next a).andThen last
  := by
  cases first with
  | failed error => rfl
  | ended a before =>
    simp only [andThen]
    cases next a with
    | failed error => rfl
    | ended b between =>
      dsimp only
      cases last b with
      | failed error => rfl
      | ended c after => simp [Footprint.append]

namespace Below

variable {pending : α → Prop} {pending' : β → Prop} {pending'' : γ → Prop} {ready : Prop}

/-- A failure that does not depend on what is available. -/
theorem fail (error : EvaluationError) :
  Below pending ready (.failed error) (.failed error)
  := by
  constructor
  · rintro _ ⟨⟩
    exact ⟨error, rfl⟩
  · nofun
  · nofun
  · nofun

/-- A result that was ready is the same later. -/
theorem result {a : α} (h : ¬ pending a) :
  Below pending True (.result a) (.result a)
  := by
  constructor
  · nofun
  · rintro _ _ ⟨⟩
    simp [h]
  · intros
    rfl
  · rintro _ _ _ _ ⟨⟩ ⟨⟩
    simp

/-- A result that is pending may become anything. -/
theorem waiting {a : α} (h : pending a) (second : Evaluation α) :
  Below pending False (.result a) second
  := by
  constructor
  · nofun
  · rintro _ _ ⟨⟩
    simp [h]
  · nofun
  · rintro _ _ _ _ ⟨⟩ _
    simp

theorem lift (outcome : Except EvaluationError α) :
  Below (fun _ => False) True (.lift outcome) (.lift outcome)
  := by
  cases outcome with
  | error error => apply fail error
  | ok a => apply result id

theorem lift_map {f : α → β} (outcome : Except EvaluationError α) (h : ∀ a, ¬ pending' (f a)) :
  Below pending' True (.lift (outcome.map f)) (.lift (outcome.map f))
  := by
  cases outcome with
  | error error => apply fail error
  | ok a => apply result (h a)

/-- Computations one after the other: once the first is pending, the second may go on with another
value later. -/
theorem andThen {first second : Evaluation α} {next next' : α → Evaluation β}
    (hf : Below pending True first second)
    (known : ∀ a footprint, first = .ended a footprint → ¬ pending a →
      Below pending' ready (next a) (next' a))
    (unknown : ∀ a b, pending a → Below pending' False (next a) (next' b)) :
  Below pending' ready (first.andThen next) (second.andThen next')
  := by
  match hx : first with
  | .failed error =>
    obtain ⟨error', rfl⟩ := hf.failed rfl
    constructor
    · intros
      exact ⟨error', rfl⟩
    · nofun
    · nofun
    · nofun
  | .ended a before =>
    have pending_iff := hf.pending_iff rfl
    by_cases hp : pending a
    · have unresolved : before.unresolved ≠ [] := by simpa using pending_iff.mp hp
      constructor
      · intro error h
        match second with
        | .failed error' => exact ⟨error', rfl⟩
        | .ended b after =>
          obtain ⟨⟨⟩⟩ | ⟨_, _, ⟨⟩, hn⟩ := andThen_eq_failed.mp h
          obtain ⟨error', hn'⟩ := (unknown a b hp).failed hn
          exact ⟨error', andThen_eq_failed.mpr (.inr ⟨b, after, rfl, hn'⟩)⟩
      · intro c footprint h
        obtain ⟨_, _, after, ⟨⟩, hn, rfl⟩ := andThen_eq_ended.mp h
        simp [(unknown a a hp).pending_iff hn, unresolved]
      · intro c footprint h _ resolved
        obtain ⟨_, _, after, ⟨⟩, hn, rfl⟩ := andThen_eq_ended.mp h
        exact absurd (List.append_eq_nil_iff.mp resolved).1 unresolved
      · intro c d footprint footprint' h h' dependency hd
        obtain ⟨_, _, after, ⟨⟩, hn, rfl⟩ := andThen_eq_ended.mp h
        obtain ⟨b, before', after', rfl, hn', rfl⟩ := andThen_eq_ended.mp h'
        rw [Footprint.mem_all_append] at hd ⊢
        apply hd.imp
        · apply hf.sought rfl rfl dependency
        · exact (unknown a b hp).sought hn hn' dependency
    · have resolved : before.unresolved = [] := by simpa using (not_congr pending_iff).mp hp
      obtain rfl := hf.same rfl trivial resolved
      have after := known a before rfl hp
      constructor
      · intro error h
        obtain ⟨⟨⟩⟩ | ⟨_, _, ⟨⟩, hn⟩ := andThen_eq_failed.mp h
        obtain ⟨error', hn'⟩ := after.failed hn
        exact ⟨error', andThen_eq_failed.mpr (.inr ⟨a, before, rfl, hn'⟩)⟩
      · intro c footprint h
        obtain ⟨_, _, _, ⟨⟩, hn, rfl⟩ := andThen_eq_ended.mp h
        simpa [resolved] using after.pending_iff hn
      · intro c footprint h hr unresolved
        obtain ⟨_, _, rest, ⟨⟩, hn, rfl⟩ := andThen_eq_ended.mp h
        rw [h, andThen_eq_ended]
        use a, before, rest, rfl
        exact ⟨(after.same hn hr (List.append_eq_nil_iff.mp unresolved).2).trans hn, rfl⟩
      · intro c d footprint footprint' h h' dependency hd
        obtain ⟨_, _, _, ⟨⟩, hn, rfl⟩ := andThen_eq_ended.mp h
        obtain ⟨_, _, _, ⟨⟩, hn', rfl⟩ := andThen_eq_ended.mp h'
        rw [Footprint.mem_all_append] at hd ⊢
        apply hd.imp id
        apply after.sought hn hn' dependency

/-- Two computations side by side, whose results are used together. -/
theorem both {x x' : Evaluation α} {y y' : Evaluation β} {next next' : α → β → Evaluation γ}
    (hx : Below pending True x x') (hy : Below pending' True y y')
    (known : ∀ a b, ¬ pending a → ¬ pending' b → Below pending'' ready (next a b) (next' a b))
    (unknown : ∀ a b a' b', pending a ∨ pending' b → Below pending'' False (next a b) (next' a' b')) :
  Below pending'' ready (x.andThen fun a => y.andThen (next a)) (x'.andThen fun a => y'.andThen (next' a))
  := by
  apply hx.andThen
  · intro a _ _ ha
    apply hy.andThen
    · intro b _ _ hb
      apply known a b ha hb
    · intro b b' hb
      apply unknown a b a b' (.inr hb)
  · intro a a' ha
    apply hy.andThen
    · intro b _ _ _
      apply unknown a b a' b (.inl ha)
    · intro b b' _
      apply unknown a b a' b' (.inl ha)

/-- The result of a computation in another form. -/
theorem map {x x' : Evaluation α} {f : α → β} (hx : Below pending True x x')
    (h : ∀ a, pending' (f a) ↔ pending a) :
  Below pending' True (x.andThen fun a => .result (f a)) (x'.andThen fun a => .result (f a))
  := by
  apply hx.andThen
  · intro a _ _ ha
    apply result (mt (h a).mp ha)
  · intro a _ ha
    apply waiting ((h a).mpr ha) _

/-- The results of two computations put together. -/
theorem zip {x x' : Evaluation α} {y y' : Evaluation β} {f : α → β → γ}
    (hx : Below pending True x x') (hy : Below pending' True y y')
    (h : ∀ a b, pending'' (f a b) ↔ pending a ∨ pending' b) :
  Below pending'' True (x.andThen fun a => y.andThen fun b => .result (f a b))
    (x'.andThen fun a => y'.andThen fun b => .result (f a b))
  := by
  apply hx.both hy
  · intro a b ha hb
    apply result
    rw [h]
    apply not_or.mpr ⟨ha, hb⟩
  · intro a b a' b' hab
    apply waiting ((h a b).mpr hab) _

end Below

end Evaluation

/-! ### Pending slots -/

namespace Slot

theorem argument?_eq_none {slot : Slot} :
  slot.argument? = none ↔ slot = .pending
  := by
  cases slot <;> simp [argument?]

theorem isPending_iff {slot : Slot} :
  slot.isPending ↔ slot = .pending
  := by
  cases slot <;> simp [isPending]

theorem ofItems_eq_pending {slots : List Slot} :
  ofItems slots = .pending ↔ .pending ∈ slots
  := by
  have any : slots.any isPending ↔ .pending ∈ slots := by simp [isPending_iff]
  unfold ofItems
  rw [← any]
  split
  · next h => simp [h]
  · next h => simp [h]

theorem ofFields_eq_pending {slots : List (String × Slot)} :
  ofFields slots = .pending ↔ ∃ slot ∈ slots, slot.2 = .pending
  := by
  have any : slots.any (·.2.isPending) ↔ ∃ slot ∈ slots, slot.2 = .pending := by simp [isPending_iff]
  unfold ofFields
  rw [← any]
  split
  · next h => simp [h]
  · next h => simp [h]

end Slot

/-! ### Evaluations -/

namespace Capabilities

variable {capabilities capabilities' : Capabilities}

open Evaluation

theorem Extends.refl (capabilities : Capabilities) :
  capabilities.Extends capabilities
  := fun _ _ => ⟨rfl, fun _ _ => rfl⟩

/-- What is found of a resource is a resource. -/
theorem exists_resource_of_find {id : String} {finding : Finding}
    (h : capabilities.find (.resource id) = .ok (some finding)) :
  ∃ resource, finding = .resource resource
  := by
  unfold find at h
  dsimp only at h
  split at h
  · cases h
  · split at h
    · next resource _ =>
      cases h
      exact ⟨resource, rfl⟩
    · cases h
    · cases h

/-- What is found of a condition is a truth value. -/
theorem exists_truth_of_find {name : String} {finding : Finding}
    (h : capabilities.find (.condition name) = .ok (some finding)) :
  ∃ holds, finding = .truth holds
  := by
  unfold find at h
  dsimp only at h
  split at h
  · cases h
  · next values _ =>
    cases hv : values name with
    | error error => simp [hv, Except.map] at h
    | ok holds =>
      simp only [hv, Except.map, Except.ok.injEq, Option.some.injEq] at h
      exact ⟨holds, h.symm⟩

theorem Extends.below_inquire (h : capabilities.Extends capabilities') (dependency : Dependency) :
  Below (· = none) True (capabilities.inquire dependency) (capabilities'.inquire dependency)
  := by
  by_cases hf : capabilities.find dependency = .ok none
  · have waits : capabilities.inquire dependency = .waiting dependency none := by rw [inquire, hf]
    rw [waits]
    constructor
    · nofun
    · rintro _ _ ⟨⟩
      simp
    · rintro _ _ ⟨⟩
      simp
    · rintro _ finding _ footprint' ⟨⟩ ended d hd
      obtain ⟨-, rfl⟩ := inquire_eq_ended.mp ended
      obtain rfl : d = dependency := by simpa using hd
      cases finding <;> simp
  · have same : capabilities'.inquire dependency = capabilities.inquire dependency := by
      rw [inquire, (h dependency hf).1, inquire]
    rw [same]
    constructor
    · intro error failed
      exact ⟨error, failed⟩
    · intro finding footprint ended
      obtain ⟨found, rfl⟩ := inquire_eq_ended.mp ended
      cases finding with
      | none => exact absurd found hf
      | some finding => simp
    · intros
      rfl
    · intro a b footprint footprint' ended ended' d hd
      obtain ⟨-, rfl⟩ := Evaluation.ended.inj (ended.symm.trans ended')
      apply hd

/-- The slot of a reference is pending until its dependency is found. -/
theorem Extends.below_slot (h : capabilities.Extends capabilities') (dependency : Dependency) :
  Below (· = .pending) True
    ((capabilities.inquire dependency).andThen fun finding => .result (capabilities.slotOf finding))
    ((capabilities'.inquire dependency).andThen fun finding => .result (capabilities'.slotOf finding))
  := by
  apply (h.below_inquire dependency).andThen
  · intro finding footprint ended known
    obtain ⟨found, -⟩ := inquire_eq_ended.mp ended
    have agree : capabilities.Agree capabilities' dependency := by
      apply h
      rw [found]
      simpa using known
    rw [slotOf_eq agree found]
    apply Below.result
    match finding with
    | none => exact absurd rfl known
    | some (.value _) => nofun
    | some (.truth _) => nofun
    | some (.resource _) => nofun
  · rintro _ finding rfl
    apply Below.waiting
    rfl

end Capabilities

namespace Slot

open Evaluation

theorem below_writtenText {slot : Slot} (known : slot ≠ .pending) :
  Below (· = none) True slot.writtenText slot.writtenText
  := by
  cases slot with
  | ready value => apply Below.lift_map _ nofun
  | noValue => apply Below.result nofun
  | pending => exact absurd rfl known

theorem below_truth (function : String) {slot : Slot} (known : slot ≠ .pending) :
  Below (· = none) True (slot.truth function) (slot.truth function)
  := by
  cases slot with
  | ready value => apply Below.lift_map (f := some) (value.expectBool function) (by simp)
  | noValue => apply Below.lift_map (f := some) (Json.null.expectBool function) (by simp)
  | pending => exact absurd rfl known

theorem below_ofArgument (apply : Json → Except EvaluationError Json) {slot : Slot} (known : slot ≠ .pending) :
  Below (· = .pending) True (slot.ofArgument apply) (slot.ofArgument apply)
  := by
  cases slot with
  | ready value => apply Below.lift_map _ nofun
  | noValue => apply Below.lift_map _ nofun
  | pending => exact absurd rfl known

/-- A placeholder and the text that it contributes. -/
theorem below_written {x x' : Evaluation Slot} (hx : Below (· = .pending) True x x') :
  Below (· = none) True (x.andThen Slot.writtenText) (x'.andThen Slot.writtenText)
  := by
  apply hx.andThen
  · intro slot _ _ known
    apply below_writtenText known
  · rintro _ slot rfl
    apply Below.waiting
    rfl

/-- An operand and its truth value. -/
theorem below_held (function : String) {x x' : Evaluation Slot} (hx : Below (· = .pending) True x x') :
  Below (· = none) True (x.andThen (Slot.truth function)) (x'.andThen (Slot.truth function))
  := by
  apply hx.andThen
  · intro slot _ _ known
    apply below_truth function known
  · rintro _ slot rfl
    apply Below.waiting
    rfl

end Slot

namespace Template

open Evaluation

variable (template : Template) {capabilities capabilities' : Capabilities}

/-- Only one name stands for no value. -/
theorem ne_noValue_of_evalRef {name : String} {slot : Slot} {footprint : Footprint}
    (hn : name ≠ "AWS::NoValue") (ended : template.evalRef capabilities name = .ended slot footprint) :
  slot ≠ .noValue
  := by
  rw [evalRef_eq, if_neg hn] at ended
  cases hd : template.dependencyOf? name with
  | none => simp [hd] at ended
  | some dependency =>
    simp only [hd] at ended
    obtain ⟨finding, _, _, -, ⟨⟩, -⟩ := andThen_eq_ended.mp ended
    match finding with
    | none => nofun
    | some (.value _) => nofun
    | some (.truth _) => nofun
    | some (.resource _) => nofun

section

variable (h : capabilities.Extends capabilities')

include h

theorem below_evalRef (name : String) :
  Below (· = .pending) True (template.evalRef capabilities name) (template.evalRef capabilities' name)
  := by
  simp only [evalRef_eq]
  split
  · apply Below.result nofun
  · cases template.dependencyOf? name with
    | none => apply Below.fail _
    | some dependency => apply h.below_slot dependency

theorem below_evalGetAtt (logicalId attr : String) :
  Below (· = .pending) True (template.evalGetAtt capabilities logicalId attr)
    (template.evalGetAtt capabilities' logicalId attr)
  := by
  simp only [evalGetAtt_eq]
  split
  · apply (h.below_inquire _).andThen
    · intro finding footprint ended known
      obtain ⟨found, -⟩ := Capabilities.inquire_eq_ended.mp ended
      cases finding with
      | none => exact absurd rfl known
      | some finding =>
        obtain ⟨resource, rfl⟩ := Capabilities.exists_resource_of_find found
        simp only [Option.bind_some, Finding.resource?]
        cases resource.attribute? attr with
        | none => apply Below.fail _
        | some value => apply Below.result nofun
    · rintro _ finding rfl
      apply Below.waiting
      rfl
  · apply Below.fail _

theorem below_evalCondition (name : String) :
  Below (· = none) True (evalCondition capabilities name) (evalCondition capabilities' name)
  := by
  simp only [evalCondition_eq]
  apply (h.below_inquire _).andThen
  · intro finding footprint ended known
    obtain ⟨found, -⟩ := Capabilities.inquire_eq_ended.mp ended
    cases finding with
    | none => exact absurd rfl known
    | some finding =>
      obtain ⟨holds, rfl⟩ := Capabilities.exists_truth_of_find found
      apply Below.result nofun
  · rintro _ finding rfl
    apply Below.waiting
    rfl

theorem below_evalPlaceholder (name : String) :
  Below (· = .pending) True (template.evalPlaceholder capabilities name)
    (template.evalPlaceholder capabilities' name)
  := by
  unfold evalPlaceholder
  split
  · apply template.below_evalRef h name
  · split
    · split
      · apply template.below_evalGetAtt h _ _
      · apply Below.fail _
    · apply Below.fail _

theorem below_evalSegments {binding : String → Option Expression} (segments : List Segment)
    (bound : ∀ name value, binding name = some value →
      Below (· = .pending) True (template.eval capabilities value) (template.eval capabilities' value)) :
  Below (· = none) True
    (template.evalSegments capabilities (fun name => (binding name).map (template.eval capabilities)) segments)
    (template.evalSegments capabilities' (fun name => (binding name).map (template.eval capabilities')) segments)
  := by
  induction segments with
  | nil => apply Below.result nofun
  | cons segment rest ih =>
    cases segment with
    | literal text =>
      simp only [evalSegments, Evaluation.bind_eq, Evaluation.pure_eq]
      apply ih.map
      simp
    | placeholder name =>
      simp only [evalSegments, Evaluation.bind_eq, Evaluation.pure_eq, ← andThen_assoc]
      have placed : Below (· = .pending) True
          (((binding name).map (template.eval capabilities)).getD (template.evalPlaceholder capabilities name))
          (((binding name).map (template.eval capabilities')).getD
            (template.evalPlaceholder capabilities' name)) := by
        cases hv : binding name with
        | some value => apply bound name value hv
        | none => apply template.below_evalPlaceholder h name
      apply (Slot.below_written placed).zip ih
      intro text after
      cases text <;> simp

theorem below_evalRefs (names : List String) :
  Below (.pending ∈ ·) True (template.evalRefs capabilities names) (template.evalRefs capabilities' names)
  := by
  induction names with
  | nil => apply Below.result (by simp)
  | cons name rest ih =>
    simp only [evalRefs, Evaluation.bind_eq, Evaluation.pure_eq]
    apply (template.below_evalRef h name).zip ih
    simp [eq_comm]

theorem below_evalZones (region : Json) :
  Below (· = .pending) True (template.evalZones capabilities region) (template.evalZones capabilities' region)
  := by
  simp only [evalZones, Evaluation.bind_eq, Evaluation.pure_eq]
  apply (Below.lift _).andThen
  · intro name _ _ _
    split
    · apply (template.below_evalRef h "AWS::Region").andThen
      · intro slot _ ended known
        cases slot with
        | ready value =>
          apply (Below.lift _).map
          simp
        | noValue => exact absurd rfl (template.ne_noValue_of_evalRef (by decide) ended)
        | pending => exact absurd rfl known
      · rintro _ slot rfl
        apply Below.waiting
        rfl
    · apply Below.result (by simp)
  · intro _ _ unknown
    apply unknown.elim

end

mutual

/-- An evaluation is repeated in a bundle that says more. -/
theorem below_eval (h : capabilities.Extends capabilities') (expression : Expression) :
  Below (· = .pending) True (template.eval capabilities expression) (template.eval capabilities' expression)
  := by
  cases expression with
  | null | bool | number | string =>
    simp only [eval]
    apply Below.result nofun
  | list items =>
    simp only [eval, Evaluation.bind_eq, Evaluation.pure_eq]
    apply (below_evalItems h items).map
    intro slots
    apply Slot.ofItems_eq_pending
  | object fields =>
    simp only [eval, Evaluation.bind_eq, Evaluation.pure_eq]
    apply (below_evalFields h fields).map
    intro slots
    apply Slot.ofFields_eq_pending
  | ref name =>
    simp only [eval]
    apply template.below_evalRef h name
  | getAtt logicalId attr =>
    simp only [eval]
    apply template.below_evalGetAtt h logicalId attr
  | sub text bound =>
    simp only [eval, evalVariable_eq, Evaluation.bind_eq, Evaluation.pure_eq]
    apply (template.below_evalSegments h _ fun name value hv => below_variable h bound hv).map
    intro text
    cases text <;> simp
  | refAll type =>
    simp only [eval, Evaluation.bind_eq, Evaluation.pure_eq]
    apply (template.below_evalRefs h _).map
    intro slots
    apply Slot.ofItems_eq_pending
  | condition name =>
    simp only [eval, Evaluation.bind_eq, Evaluation.pure_eq]
    apply (below_evalCondition h name).andThen
    · intro holds _ _ known
      cases holds with
      | none => exact absurd rfl known
      | some holds => apply Below.result nofun
    · rintro _ holds rfl
      apply Below.waiting
      rfl
  | ifNamed name holds otherwise =>
    simp only [eval, Evaluation.bind_eq, Evaluation.pure_eq]
    apply (below_evalCondition h name).andThen
    · intro test _ _ known
      match test with
      | none => exact absurd rfl known
      | some true => apply below_eval h holds
      | some false => apply below_eval h otherwise
    · rintro _ test rfl
      apply Below.waiting
      rfl
  | ifValue test holds otherwise =>
    simp only [eval, Evaluation.bind_eq, Evaluation.pure_eq]
    apply (below_eval h test).andThen
    · intro slot _ _ known
      match ha : slot.argument? with
      | none => exact absurd (Slot.argument?_eq_none.mp ha) known
      | some value =>
        apply (Below.lift _).andThen
        · intro taken _ _ _
          match taken with
          | true => apply below_eval h holds
          | false => apply below_eval h otherwise
        · nofun
    · rintro _ slot rfl
      apply Below.waiting
      rfl
  | getAZs region =>
    simp only [eval, Evaluation.bind_eq, Evaluation.pure_eq]
    apply (below_eval h region).andThen
    · intro slot _ _ known
      match ha : slot.argument? with
      | none => exact absurd (Slot.argument?_eq_none.mp ha) known
      | some region => apply template.below_evalZones h region
    · rintro _ slot rfl
      apply Below.waiting
      rfl
  | findInMap map top second =>
    simp only [eval, Evaluation.bind_eq, Evaluation.pure_eq]
    apply (below_eval h map).andThen
    · intro map _ _ known
      apply (below_eval h top).both (below_eval h second)
      · intro top second known' known''
        match hm : map.argument?, ht : top.argument?, hs : second.argument? with
        | none, _, _ => exact absurd (Slot.argument?_eq_none.mp hm) known
        | _, none, _ => exact absurd (Slot.argument?_eq_none.mp ht) known'
        | _, _, none => exact absurd (Slot.argument?_eq_none.mp hs) known''
        | some map, some top, some second => apply Below.lift_map _ nofun
      · intro top second _ _ unknown
        split
        · next ht hs =>
          obtain rfl | rfl := unknown
          · cases ht
          · cases hs
        · apply Below.waiting
          rfl
    · rintro _ map rfl
      apply (below_eval h top).both (below_eval h second)
      · intro top second _ _
        apply Below.waiting
        rfl
      · intro top second _ _ _
        apply Below.waiting
        rfl
  | unary function argument =>
    simp only [eval, Evaluation.bind_eq]
    apply (Below.lift _).andThen
    · intro _ _ _ _
      apply (below_eval h argument).andThen
      · intro slot _ _ known
        apply Slot.below_ofArgument _ known
      · rintro _ slot rfl
        apply Below.waiting
        rfl
    · nofun
  | binary function first second =>
    simp only [eval, Evaluation.bind_eq, Evaluation.pure_eq]
    apply (below_eval h first).both (below_eval h second)
    · intro first second known known'
      match hf : first.argument?, hs : second.argument? with
      | none, _ => exact absurd (Slot.argument?_eq_none.mp hf) known
      | _, none => exact absurd (Slot.argument?_eq_none.mp hs) known'
      | some first, some second => apply Below.lift_map _ nofun
    · intro first second _ _ unknown
      split
      · next hf hs =>
        obtain rfl | rfl := unknown
        · cases hf
        · cases hs
      · apply Below.waiting
        rfl
  | junction connective operands =>
    simp only [eval, Evaluation.bind_eq, Evaluation.pure_eq]
    apply (Below.lift _).andThen
    · intro _ _ _ _
      apply (below_evalOperands h connective operands).map
      intro values
      cases values <;> simp
    · nofun

theorem below_evalItems (h : capabilities.Extends capabilities') (items : List Expression) :
  Below (.pending ∈ ·) True (template.evalItems capabilities items) (template.evalItems capabilities' items)
  := by
  cases items with
  | nil =>
    simp only [evalItems]
    apply Below.result (by simp)
  | cons item rest =>
    simp only [evalItems, Evaluation.bind_eq, Evaluation.pure_eq]
    apply (below_eval h item).zip (below_evalItems h rest)
    simp [eq_comm]

theorem below_evalFields (h : capabilities.Extends capabilities') (fields : List (String × Expression)) :
  Below (fun slots => ∃ slot ∈ slots, slot.2 = .pending) True
    (template.evalFields capabilities fields) (template.evalFields capabilities' fields)
  := by
  match fields with
  | [] =>
    simp only [evalFields]
    apply Below.result (by simp)
  | (key, value) :: rest =>
    simp only [evalFields, Evaluation.bind_eq, Evaluation.pure_eq]
    apply (below_eval h value).zip (below_evalFields h rest)
    simp

theorem below_variable (h : capabilities.Extends capabilities') (fields : List (String × Expression))
    {name : String} {value : Expression} (hv : lookup name fields = some value) :
  Below (· = .pending) True (template.eval capabilities value) (template.eval capabilities' value)
  := by
  match fields with
  | [] => cases hv
  | (key, first) :: rest =>
    simp only [lookup] at hv
    split at hv
    · rw [← Option.some.inj hv]
      apply below_eval h first
    · apply below_variable h rest hv

theorem below_evalOperands (h : capabilities.Extends capabilities') (connective : Junction)
    (operands : List Expression) :
  Below (· = none) True (template.evalOperands capabilities connective operands)
    (template.evalOperands capabilities' connective operands)
  := by
  cases operands with
  | nil =>
    simp only [evalOperands]
    apply Below.result nofun
  | cons operand rest =>
    simp only [evalOperands, Evaluation.bind_eq, Evaluation.pure_eq, ← andThen_assoc]
    have held := Slot.below_held connective.name (below_eval h operand)
    apply held.zip (below_evalOperands h connective rest)
    intro value values
    cases value <;> simp

end

/-! ### Resolutions -/

section

variable {expression : Expression} {resolution : Resolution}

/-- An evaluation that fails does so when more is available. -/
theorem exists_error_of_extends (h : capabilities.Extends capabilities') {error : EvaluationError}
    (failed : template.evaluate capabilities expression = .error error) :
  ∃ error', template.evaluate capabilities' expression = .error error'
  := by
  simp only [evaluate_eq_error] at failed ⊢
  exact (template.below_eval h expression).failed failed

/-- An evaluation that leaves nothing unresolved stays as it is when more is available. -/
theorem evaluate_of_extends (h : capabilities.Extends capabilities')
    (evaluated : template.evaluate capabilities expression = .ok resolution)
    (resolved : resolution.unresolved = []) :
  template.evaluate capabilities' expression = .ok resolution
  := by
  obtain ⟨slot, footprint, ended, rfl⟩ := template.evaluate_eq_ok.mp evaluated
  apply template.evaluate_eq_ok.mpr
  use slot, footprint
  have same := (template.below_eval h expression).same ended trivial (arranged_eq_nil.mp resolved)
  exact ⟨same.trans ended, rfl⟩

/-- What an evaluation asks for it asks for when more is available. -/
theorem mem_of_extends (h : capabilities.Extends capabilities') {resolution' : Resolution}
    (evaluated : template.evaluate capabilities expression = .ok resolution)
    (evaluated' : template.evaluate capabilities' expression = .ok resolution') {d : Dependency}
    (hd : d ∈ resolution.resolved ∨ d ∈ resolution.unresolved) :
  d ∈ resolution'.resolved ∨ d ∈ resolution'.unresolved
  := by
  obtain ⟨slot, footprint, ended, rfl⟩ := template.evaluate_eq_ok.mp evaluated
  obtain ⟨slot', footprint', ended', rfl⟩ := template.evaluate_eq_ok.mp evaluated'
  simp only [mem_arranged, ← Footprint.mem_all] at hd ⊢
  exact (template.below_eval h expression).sought ended ended' d hd

/-- A resolution has a value when nothing is unresolved. -/
theorem exists_realize (evaluated : template.evaluate capabilities expression = .ok resolution)
    (resolved : resolution.unresolved = []) :
  ∃ value, resolution.realize = .ok value
  := by
  obtain ⟨slot, footprint, ended, rfl⟩ := template.evaluate_eq_ok.mp evaluated
  have below := template.below_eval (Capabilities.Extends.refl capabilities) expression
  have known : slot ≠ .pending := by simp [below.pending_iff ended, arranged_eq_nil.mp resolved]
  obtain ⟨value, hv⟩ := Option.ne_none_iff_exists'.mp (mt Slot.argument?_eq_none.mp known)
  use value
  apply Resolution.realize_eq_ok.mpr ⟨hv, resolved⟩

end

end Template

end Reconcile
