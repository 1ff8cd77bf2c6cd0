import Mathlib.Tactic.Common
import Reconcile.Proofs.Evaluation.Inquiry
import Reconcile.Proofs.Expression.Placeholders

/-!
# What an evaluation reads

The resources that an evaluation can ask for are determined by the expression.  The footprint
of an evaluation is truthful: what it has as resolved was found, and what it has as unresolved
was not available.  It is also complete, for bundles of capabilities that agree on the footprint
of an evaluation let it end in the same way.
-/

namespace Reconcile

@[simp]
theorem mem_arranged {dependencies : List Dependency} {dependency : Dependency} :
  dependency ∈ arranged dependencies ↔ dependency ∈ dependencies
  := by
  rw [arranged, List.mem_mergeSort, List.mem_eraseDups]

theorem arranged_eq_nil {dependencies : List Dependency} :
  arranged dependencies = [] ↔ dependencies = []
  := by
  simp only [List.eq_nil_iff_forall_not_mem, mem_arranged]

namespace Footprint

/-- The dependencies of a footprint. -/
def all (footprint : Footprint) : List Dependency := footprint.resolved ++ footprint.unresolved

@[simp]
theorem mem_all {footprint : Footprint} {dependency : Dependency} :
  dependency ∈ footprint.all ↔ dependency ∈ footprint.resolved ∨ dependency ∈ footprint.unresolved
  := by
  simp [all]

@[simp]
theorem resolved_append (first second : Footprint) :
  (first.append second).resolved = first.resolved ++ second.resolved
  := rfl

@[simp]
theorem unresolved_append (first second : Footprint) :
  (first.append second).unresolved = first.unresolved ++ second.unresolved
  := rfl

theorem mem_all_append {first second : Footprint} {dependency : Dependency} :
  dependency ∈ (first.append second).all ↔ dependency ∈ first.all ∨ dependency ∈ second.all
  := by
  simp only [mem_all, resolved_append, unresolved_append, List.mem_append]
  tauto

end Footprint

/-- A resolution is realized when it has a value and nothing is unresolved. -/
theorem Resolution.realize_eq_ok {resolution : Resolution} {value : Json} :
  resolution.realize = .ok value ↔ resolution.value = some value ∧ resolution.unresolved = []
  := by
  unfold realize
  match hv : resolution.value, hu : resolution.unresolved with
  | none, [] => simp
  | none, _ :: _ => simp
  | some _, [] => simp
  | some _, _ :: _ => simp

/-! ### Reads of an expression -/

namespace Template

variable (template : Template)

/-- What a reference to a name reads: the resource of that name, unless a parameter or a
pseudo-parameter is meant. -/
def refReads (name : String) : List String :=
  if isPseudoParameter name || template.isParameter name then []
  else if template.isResource name then [name] else []

/-- What an attribute of a resource reads, whatever else the name may mean. -/
def attributeReads (logicalId : String) : List String :=
  if template.isResource logicalId then [logicalId] else []

/-- What a placeholder reads that no variable binds: as a whole if it has a meaning, otherwise as an
attribute. -/
def placeholderReads (name : String) : List String :=
  if isPseudoParameter name || template.isParameter name || template.isResource name then
    template.refReads name
  else
    match Text.splitOnce '.' name with
    | some (logicalId, _) => template.attributeReads logicalId
    | none => []

/-- What a text with placeholders reads, apart from its variables. -/
def textReads (text : String) (bound : List (String × Expression)) : List String :=
  ((Segment.placeholders (Substitution.segments text)).filter fun name =>
    (lookup name bound).isNone).flatMap template.placeholderReads

mutual

/-- The resources that an evaluation of an expression can ask for. -/
def reads : Expression → List String
  | .null | .bool _ | .number _ | .string _ | .refAll _ | .condition _ => []
  | .list items => itemReads items
  | .object fields => fieldReads fields
  | .ref name => template.refReads name
  | .getAtt logicalId _ => template.attributeReads logicalId
  | .sub text bound => fieldReads bound ++ template.textReads text bound
  | .ifNamed _ holds otherwise => reads holds ++ reads otherwise
  | .ifValue test holds otherwise => reads test ++ (reads holds ++ reads otherwise)
  | .getAZs region => reads region
  | .findInMap map top second => reads map ++ (reads top ++ reads second)
  | .unary _ argument => reads argument
  | .binary _ first second => reads first ++ reads second
  | .junction _ operands => itemReads operands

/-- The resources that an evaluation of some expressions can ask for. -/
def itemReads : List Expression → List String
  | [] => []
  | item :: rest => reads item ++ itemReads rest

/-- The resources that an evaluation of some fields can ask for. -/
def fieldReads : List (String × Expression) → List String
  | [] => []
  | (_, value) :: rest => reads value ++ fieldReads rest

end

end Template

/-! ### Grounded computations -/

/-- A computation is grounded when its footprint is truthful, has no resources beyond `among`, and
decides how it ends. -/
structure Grounded {α : Type} (among : String → Prop) (inquiry : Capabilities → Evaluation α) : Prop where
  found : ∀ {capabilities a footprint}, inquiry capabilities = .ended a footprint →
    ∀ d ∈ footprint.resolved, ∃ finding, capabilities.find d = .ok (some finding)
  missed : ∀ {capabilities a footprint}, inquiry capabilities = .ended a footprint →
    ∀ d ∈ footprint.unresolved, capabilities.find d = .ok none
  within : ∀ {capabilities a footprint}, inquiry capabilities = .ended a footprint →
    ∀ id, .resource id ∈ footprint.all → among id
  stable : ∀ {capabilities a footprint}, inquiry capabilities = .ended a footprint →
    ∀ {capabilities'}, (∀ d ∈ footprint.all, capabilities.Agree capabilities' d) →
      inquiry capabilities' = .ended a footprint

namespace Grounded

variable {α β : Type} {among : String → Prop}

/-- A computation that asks for nothing is grounded. -/
theorem lift (outcome : Except EvaluationError α) :
  Grounded among fun _ => Evaluation.lift outcome
  := by
  constructor
  · intro _ a footprint h
    obtain ⟨-, rfl⟩ := Evaluation.lift_eq_ended.mp h
    simp
  · intro _ a footprint h
    obtain ⟨-, rfl⟩ := Evaluation.lift_eq_ended.mp h
    simp
  · intro _ a footprint h
    obtain ⟨-, rfl⟩ := Evaluation.lift_eq_ended.mp h
    simp
  · intro _ a footprint h _ _
    apply h

theorem result (a : α) :
  Grounded among fun _ => Evaluation.result a
  := lift (.ok a)

theorem failed (error : EvaluationError) :
  Grounded among fun _ => (Evaluation.failed error : Evaluation α)
  := lift (.error error)

/-- Grounded computations one after the other are grounded. -/
theorem andThen {first : Capabilities → Evaluation α} {next : α → Capabilities → Evaluation β}
    (hf : Grounded among first) (hn : ∀ a, Grounded among (next a)) :
  Grounded among fun capabilities => (first capabilities).andThen fun a => next a capabilities
  := by
  constructor
  · intro capabilities b footprint h d hd
    obtain ⟨a, before, after, h₁, h₂, rfl⟩ := Evaluation.andThen_eq_ended.mp h
    obtain hd | hd := List.mem_append.mp hd
    · apply hf.found h₁ d hd
    · exact (hn a).found h₂ d hd
  · intro capabilities b footprint h d hd
    obtain ⟨a, before, after, h₁, h₂, rfl⟩ := Evaluation.andThen_eq_ended.mp h
    obtain hd | hd := List.mem_append.mp hd
    · apply hf.missed h₁ d hd
    · exact (hn a).missed h₂ d hd
  · intro capabilities b footprint h id hd
    obtain ⟨a, before, after, h₁, h₂, rfl⟩ := Evaluation.andThen_eq_ended.mp h
    obtain hd | hd := Footprint.mem_all_append.mp hd
    · apply hf.within h₁ id hd
    · exact (hn a).within h₂ id hd
  · intro capabilities b footprint h capabilities' agree
    obtain ⟨a, before, after, h₁, h₂, rfl⟩ := Evaluation.andThen_eq_ended.mp h
    apply Evaluation.andThen_eq_ended.mpr
    use a, before, after
    refine ⟨hf.stable h₁ ?_, (hn a).stable h₂ ?_, rfl⟩
    · intro d hd
      apply agree d (Footprint.mem_all_append.mpr (.inl hd))
    · intro d hd
      apply agree d (Footprint.mem_all_append.mpr (.inr hd))

/-- Asking for a dependency is grounded when it may be asked for. -/
theorem inquire {dependency : Dependency} (h : ∀ id, dependency = .resource id → among id) :
  Grounded among fun capabilities => capabilities.inquire dependency
  := by
  constructor
  · intro capabilities finding footprint ended d hd
    obtain ⟨found, rfl⟩ := Capabilities.inquire_eq_ended.mp ended
    cases finding with
    | none => simp at hd
    | some finding =>
      obtain rfl : d = dependency := by simpa using hd
      use finding
  · intro capabilities finding footprint ended d hd
    obtain ⟨found, rfl⟩ := Capabilities.inquire_eq_ended.mp ended
    cases finding with
    | none =>
      obtain rfl : d = dependency := by simpa using hd
      apply found
    | some finding => simp at hd
  · intro capabilities finding footprint ended id hd
    obtain ⟨-, rfl⟩ := Capabilities.inquire_eq_ended.mp ended
    apply h
    cases finding <;> simpa [eq_comm] using hd
  · intro capabilities finding footprint ended capabilities' agree
    obtain ⟨found, rfl⟩ := Capabilities.inquire_eq_ended.mp ended
    apply Capabilities.inquire_eq_ended.mpr
    refine ⟨?_, rfl⟩
    rw [(agree dependency ?_).1, found]
    cases finding <;> simp

/-- So is looking at what was found as the value of a reference. -/
theorem slot {dependency : Dependency} (h : ∀ id, dependency = .resource id → among id) :
  Grounded among fun capabilities =>
    (capabilities.inquire dependency).andThen fun finding => .result (capabilities.slotOf finding)
  := by
  have asked := inquire h
  have ended_of : ∀ {capabilities : Capabilities} {a footprint},
      (capabilities.inquire dependency).andThen (fun finding => .result (capabilities.slotOf finding))
        = .ended a footprint →
      ∃ finding, capabilities.inquire dependency = .ended finding footprint
        ∧ a = capabilities.slotOf finding := by
    intro capabilities a footprint ended
    obtain ⟨finding, before, after, h₁, h₂, rfl⟩ := Evaluation.andThen_eq_ended.mp ended
    cases h₂
    use finding
    simpa [Footprint.append] using h₁
  constructor
  · intro capabilities a footprint ended
    obtain ⟨finding, h₁, -⟩ := ended_of ended
    apply asked.found h₁
  · intro capabilities a footprint ended
    obtain ⟨finding, h₁, -⟩ := ended_of ended
    apply asked.missed h₁
  · intro capabilities a footprint ended
    obtain ⟨finding, h₁, -⟩ := ended_of ended
    apply asked.within h₁
  · intro capabilities a footprint ended capabilities' agree
    obtain ⟨finding, h₁, rfl⟩ := ended_of ended
    have found := Capabilities.inquire_eq_ended.mp h₁
    have agreed : capabilities.Agree capabilities' dependency := by
      apply agree
      rw [found.2]
      cases finding <;> simp
    rw [asked.stable h₁ agree, ← Capabilities.slotOf_eq agreed found.1]
    simp [Evaluation.andThen, Evaluation.result, Footprint.append]

end Grounded

/-! ### Evaluations are grounded -/

namespace Template

variable (template : Template) {among : String → Prop}

theorem grounded_evalRef {name : String} (h : ∀ id ∈ template.refReads name, among id) :
  Grounded among fun capabilities => template.evalRef capabilities name
  := by
  simp only [evalRef_eq]
  by_cases hn : name = "AWS::NoValue"
  · simp only [hn, if_true]
    exact .result _
  · simp only [hn, if_false]
    cases hd : template.dependencyOf? name with
    | none => exact .failed _
    | some dependency =>
      apply Grounded.slot
      rintro id rfl
      apply h
      unfold dependencyOf? at hd
      unfold refReads
      split at hd
      · cases hd
      split at hd
      · cases hd
      split at hd
      · cases hd
        simp_all
      · cases hd

theorem grounded_evalGetAtt {logicalId : String} (attr : String)
    (h : ∀ id ∈ template.attributeReads logicalId, among id) :
  Grounded among fun capabilities => template.evalGetAtt capabilities logicalId attr
  := by
  simp only [evalGetAtt_eq]
  by_cases hr : template.isResource logicalId
  · simp only [hr, if_true]
    apply Grounded.andThen
    · apply Grounded.inquire
      rintro id ⟨⟩
      apply h
      simp [attributeReads, hr]
    · intro finding
      cases finding.bind Finding.resource? with
      | none => exact .result _
      | some resource =>
        dsimp only
        cases resource.attribute? attr with
        | none => exact .failed _
        | some value => exact .result _
  · simp only [hr]
    exact .failed _

theorem grounded_evalCondition (name : String) :
  Grounded among fun capabilities => evalCondition capabilities name
  := by
  simp only [evalCondition_eq]
  apply Grounded.andThen
  · apply Grounded.inquire
    rintro id ⟨⟩
  · intro finding
    exact .result _

theorem grounded_evalPlaceholder {name : String} (h : ∀ id ∈ template.placeholderReads name, among id) :
  Grounded among fun capabilities => template.evalPlaceholder capabilities name
  := by
  unfold evalPlaceholder
  unfold placeholderReads at h
  split at h
  · next declared =>
    simp only [declared, if_true]
    apply template.grounded_evalRef h
  · next undeclared =>
    simp only [undeclared]
    cases hs : Text.splitOnce '.' name with
    | none => exact .failed _
    | some parts =>
      rw [hs] at h
      dsimp only at h ⊢
      by_cases hr : template.isResource parts.1
      · simp only [hr, if_true]
        apply template.grounded_evalGetAtt parts.2 h
      · simp only [hr]
        exact .failed _

theorem grounded_writtenText (slot : Slot) :
  Grounded among fun _ => slot.writtenText
  := by
  cases slot with
  | ready value => exact .lift _
  | noValue => exact .result _
  | pending => exact .result _

theorem grounded_truth (function : String) (slot : Slot) :
  Grounded among fun _ => slot.truth function
  := by
  unfold Slot.truth
  cases slot.argument? with
  | none => exact .result _
  | some value => exact .lift _

theorem grounded_ofArgument (slot : Slot) (apply : Json → Except EvaluationError Json) :
  Grounded among fun _ => slot.ofArgument apply
  := by
  unfold Slot.ofArgument
  cases slot.argument? with
  | none => exact .result _
  | some value => exact .lift _

/-- The segments of a text are grounded when its placeholders are, bound or not. -/
theorem grounded_evalSegments {binding : String → Option Expression} {segments : List Segment}
    (bound : ∀ name value, binding name = some value →
      Grounded among fun capabilities => template.eval capabilities value)
    (free : ∀ name ∈ Segment.placeholders segments, binding name = none →
      ∀ id ∈ template.placeholderReads name, among id) :
  Grounded among fun capabilities =>
    template.evalSegments capabilities (fun name => (binding name).map (template.eval capabilities)) segments
  := by
  induction segments with
  | nil => exact .result _
  | cons segment rest ih =>
    cases segment with
    | literal text =>
      simp only [evalSegments, Evaluation.bind_eq, Evaluation.pure_eq]
      apply Grounded.andThen
      · apply ih free
      · intro after
        exact .result _
    | placeholder name =>
      simp only [evalSegments, Evaluation.bind_eq, Evaluation.pure_eq]
      apply Grounded.andThen
      · cases hv : binding name with
        | some value => apply bound name value hv
        | none =>
          apply grounded_evalPlaceholder
          apply free name (by simp [Segment.placeholders]) hv
      · intro slot
        apply Grounded.andThen
        · apply grounded_writtenText slot
        · intro text
          apply Grounded.andThen
          · apply ih
            intro other ho
            apply free other (List.mem_cons_of_mem _ ho)
          · intro after
            exact .result _

/-- The parameters of a type are declared, so that references to them read no resource. -/
theorem refReads_of_mem_parametersOfType {type name : String} (h : name ∈ template.parametersOfType type) :
  template.refReads name = []
  := by
  obtain ⟨entry, hm, hn⟩ := List.mem_filterMap.mp h
  split at hn
  · cases hn
    have declared : template.isParameter entry.1 := by
      rw [isParameter, Table.contains_iff]
      apply List.mem_map.mpr ⟨entry, hm, rfl⟩
    simp [refReads, declared]
  · cases hn

theorem grounded_evalRefs {names : List String} (h : ∀ name ∈ names, ∀ id ∈ template.refReads name, among id) :
  Grounded among fun capabilities => template.evalRefs capabilities names
  := by
  induction names with
  | nil => exact .result _
  | cons name rest ih =>
    simp only [evalRefs, Evaluation.bind_eq, Evaluation.pure_eq]
    apply Grounded.andThen
    · apply template.grounded_evalRef (h name (by simp))
    · intro slot
      apply Grounded.andThen
      · apply ih
        intro other ho
        apply h other (List.mem_cons_of_mem _ ho)
      · intro slots
        exact .result _

/-- The zones of a region depend on nothing but the region. -/
theorem grounded_evalZones (region : Json) :
  Grounded among fun capabilities => template.evalZones capabilities region
  := by
  simp only [evalZones, Evaluation.bind_eq, Evaluation.pure_eq]
  apply Grounded.andThen
  · exact .lift _
  · intro name
    split
    · apply Grounded.andThen
      · apply template.grounded_evalRef
        simp [refReads, show isPseudoParameter "AWS::Region" = true by decide]
      · intro slot
        cases slot with
        | ready value =>
          apply Grounded.andThen
          · exact .lift _
          · intro current
            exact .result _
        | noValue => exact .result _
        | pending => exact .result _
    · exact .result _

mutual

/-- An evaluation is grounded in the reads of its expression. -/
theorem grounded_eval (expression : Expression) (h : ∀ id ∈ template.reads expression, among id) :
  Grounded among fun capabilities => template.eval capabilities expression
  := by
  cases expression with
  | null | bool | number | string =>
    simp only [eval]
    exact .result _
  | list items =>
    simp only [eval, Evaluation.bind_eq, Evaluation.pure_eq]
    apply Grounded.andThen
    · apply grounded_evalItems items h
    · intro slots
      exact .result _
  | object fields =>
    simp only [eval, Evaluation.bind_eq, Evaluation.pure_eq]
    apply Grounded.andThen
    · apply grounded_evalFields fields h
    · intro slots
      exact .result _
  | ref name =>
    simp only [eval]
    apply template.grounded_evalRef h
  | getAtt logicalId attr =>
    simp only [eval]
    apply template.grounded_evalGetAtt attr h
  | sub text bound =>
    simp only [reads, List.mem_append] at h
    simp only [eval, evalVariable_eq, Evaluation.bind_eq, Evaluation.pure_eq]
    apply Grounded.andThen
    · apply grounded_evalSegments
      · intro name value hv
        apply grounded_variable bound (fun id hid => h id (.inl hid)) hv
      · intro name hn hv id hid
        apply h id (.inr _)
        apply List.mem_flatMap.mpr
        use name
        simp [hn, hv, hid]
    · intro text
      exact .result _
  | refAll type =>
    simp only [eval, Evaluation.bind_eq, Evaluation.pure_eq]
    apply Grounded.andThen
    · apply grounded_evalRefs
      intro name hn
      simp [template.refReads_of_mem_parametersOfType hn]
    · intro slots
      exact .result _
  | condition name =>
    simp only [eval, Evaluation.bind_eq, Evaluation.pure_eq]
    apply Grounded.andThen
    · apply grounded_evalCondition name
    · intro holds
      cases holds with
      | none => exact .result _
      | some holds => exact .result _
  | ifNamed name holds otherwise =>
    simp only [reads, List.mem_append] at h
    simp only [eval, Evaluation.bind_eq, Evaluation.pure_eq]
    apply Grounded.andThen
    · apply grounded_evalCondition name
    · intro test
      match test with
      | none => exact .result _
      | some true => apply grounded_eval holds fun id hid => h id (.inl hid)
      | some false => apply grounded_eval otherwise fun id hid => h id (.inr hid)
  | ifValue test holds otherwise =>
    simp only [reads, List.mem_append] at h
    simp only [eval, Evaluation.bind_eq, Evaluation.pure_eq]
    apply Grounded.andThen
    · apply grounded_eval test fun id hid => h id (.inl hid)
    · intro slot
      cases slot.argument? with
      | none => exact .result _
      | some value =>
        apply Grounded.andThen
        · exact .lift _
        · intro taken
          match taken with
          | true => apply grounded_eval holds fun id hid => h id (.inr (.inl hid))
          | false => apply grounded_eval otherwise fun id hid => h id (.inr (.inr hid))
  | getAZs region =>
    simp only [eval, Evaluation.bind_eq, Evaluation.pure_eq]
    apply Grounded.andThen
    · apply grounded_eval region h
    · intro slot
      cases slot.argument? with
      | none => exact .result _
      | some region => apply template.grounded_evalZones region
  | findInMap map top second =>
    simp only [reads, List.mem_append] at h
    simp only [eval, Evaluation.bind_eq, Evaluation.pure_eq]
    apply Grounded.andThen
    · apply grounded_eval map fun id hid => h id (.inl hid)
    · intro map
      apply Grounded.andThen
      · apply grounded_eval top fun id hid => h id (.inr (.inl hid))
      · intro top
        apply Grounded.andThen
        · apply grounded_eval second fun id hid => h id (.inr (.inr hid))
        · intro second
          split
          · exact .lift _
          · exact .result _
  | unary function argument =>
    simp only [eval, Evaluation.bind_eq]
    apply Grounded.andThen
    · exact .lift _
    · intro _
      apply Grounded.andThen
      · apply grounded_eval argument h
      · intro slot
        apply grounded_ofArgument slot _
  | binary function first second =>
    simp only [reads, List.mem_append] at h
    simp only [eval, Evaluation.bind_eq, Evaluation.pure_eq]
    apply Grounded.andThen
    · apply grounded_eval first fun id hid => h id (.inl hid)
    · intro first
      apply Grounded.andThen
      · apply grounded_eval second fun id hid => h id (.inr hid)
      · intro second
        split
        · exact .lift _
        · exact .result _
  | junction connective operands =>
    simp only [eval, Evaluation.bind_eq, Evaluation.pure_eq]
    apply Grounded.andThen
    · exact .lift _
    · intro _
      apply Grounded.andThen
      · apply grounded_evalOperands connective operands h
      · intro values
        exact .result _

theorem grounded_evalItems (items : List Expression) (h : ∀ id ∈ template.itemReads items, among id) :
  Grounded among fun capabilities => template.evalItems capabilities items
  := by
  cases items with
  | nil =>
    simp only [evalItems]
    exact .result _
  | cons item rest =>
    simp only [itemReads, List.mem_append] at h
    simp only [evalItems, Evaluation.bind_eq, Evaluation.pure_eq]
    apply Grounded.andThen
    · apply grounded_eval item fun id hid => h id (.inl hid)
    · intro slot
      apply Grounded.andThen
      · apply grounded_evalItems rest fun id hid => h id (.inr hid)
      · intro slots
        exact .result _

theorem grounded_evalFields (fields : List (String × Expression))
    (h : ∀ id ∈ template.fieldReads fields, among id) :
  Grounded among fun capabilities => template.evalFields capabilities fields
  := by
  match fields with
  | [] =>
    simp only [evalFields]
    exact .result _
  | (key, value) :: rest =>
    simp only [fieldReads, List.mem_append] at h
    simp only [evalFields, Evaluation.bind_eq, Evaluation.pure_eq]
    apply Grounded.andThen
    · apply grounded_eval value fun id hid => h id (.inl hid)
    · intro slot
      apply Grounded.andThen
      · apply grounded_evalFields rest fun id hid => h id (.inr hid)
      · intro slots
        exact .result _

theorem grounded_variable (fields : List (String × Expression))
    (h : ∀ id ∈ template.fieldReads fields, among id) {name : String} {value : Expression}
    (hv : lookup name fields = some value) :
  Grounded among fun capabilities => template.eval capabilities value
  := by
  match fields with
  | [] => cases hv
  | (key, first) :: rest =>
    simp only [fieldReads, List.mem_append] at h
    simp only [lookup] at hv
    split at hv
    · rw [← Option.some.inj hv]
      apply grounded_eval first fun id hid => h id (.inl hid)
    · apply grounded_variable rest (fun id hid => h id (.inr hid)) hv

theorem grounded_evalOperands (connective : Junction) (operands : List Expression)
    (h : ∀ id ∈ template.itemReads operands, among id) :
  Grounded among fun capabilities => template.evalOperands capabilities connective operands
  := by
  cases operands with
  | nil =>
    simp only [evalOperands]
    exact .result _
  | cons operand rest =>
    simp only [itemReads, List.mem_append] at h
    simp only [evalOperands, Evaluation.bind_eq, Evaluation.pure_eq]
    apply Grounded.andThen
    · apply grounded_eval operand fun id hid => h id (.inl hid)
    · intro slot
      apply Grounded.andThen
      · apply grounded_truth connective.name slot
      · intro value
        apply Grounded.andThen
        · apply grounded_evalOperands connective rest fun id hid => h id (.inr hid)
        · intro values
          exact .result _

end

/-! ### Resolutions -/

/-- A resolution is what an evaluation ends with, its dependencies arranged. -/
theorem evaluate_eq_ok {capabilities : Capabilities} {expression : Expression} {resolution : Resolution} :
  template.evaluate capabilities expression = .ok resolution
    ↔ ∃ slot footprint, template.eval capabilities expression = .ended slot footprint
        ∧ resolution = ⟨slot.argument?, arranged footprint.resolved, arranged footprint.unresolved⟩
  := by
  unfold evaluate
  simp only [Evaluation.bind_eq, Evaluation.pure_eq]
  match template.eval capabilities expression with
  | .failed error => simp [Evaluation.andThen, Template.resolution]
  | .ended slot footprint =>
    simp only [Evaluation.andThen, Evaluation.result, Template.resolution, Except.ok.injEq,
      Evaluation.ended.injEq]
    constructor
    · rintro rfl
      exact ⟨slot, footprint, ⟨rfl, rfl⟩, by simp [Footprint.append]⟩
    · rintro ⟨_, _, ⟨rfl, rfl⟩, rfl⟩
      simp [Footprint.append]

theorem evaluate_eq_error {capabilities : Capabilities} {expression : Expression} {error : EvaluationError} :
  template.evaluate capabilities expression = .error error
    ↔ template.eval capabilities expression = .failed error
  := by
  unfold evaluate
  simp only [Evaluation.bind_eq, Evaluation.pure_eq]
  match template.eval capabilities expression with
  | .failed error' => simp [Evaluation.andThen, Template.resolution]
  | .ended slot footprint => simp [Evaluation.andThen, Evaluation.result, Template.resolution]

/-- Bundles that agree on what a resolution mentions lead to the same resolution. -/
theorem evaluate_of_agree {capabilities capabilities' : Capabilities} {expression : Expression}
    {resolution : Resolution} (h : template.evaluate capabilities expression = .ok resolution)
    (agree : ∀ d, d ∈ resolution.resolved ∨ d ∈ resolution.unresolved → capabilities.Agree capabilities' d) :
  template.evaluate capabilities' expression = .ok resolution
  := by
  obtain ⟨slot, footprint, ended, rfl⟩ := template.evaluate_eq_ok.mp h
  have grounded : Grounded (· ∈ template.reads expression) fun capabilities =>
      template.eval capabilities expression :=
    template.grounded_eval expression fun _ hid => hid
  apply template.evaluate_eq_ok.mpr
  use slot, footprint
  refine ⟨grounded.stable ended ?_, rfl⟩
  intro d hd
  apply agree
  simpa [mem_arranged] using hd

/-- What a resolution has as resolved was found, and what it has as unresolved was not available. -/
theorem find_of_evaluate {capabilities : Capabilities} {expression : Expression} {resolution : Resolution}
    (h : template.evaluate capabilities expression = .ok resolution) :
  (∀ d ∈ resolution.resolved, ∃ finding, capabilities.find d = .ok (some finding))
    ∧ ∀ d ∈ resolution.unresolved, capabilities.find d = .ok none
  := by
  obtain ⟨slot, footprint, ended, rfl⟩ := template.evaluate_eq_ok.mp h
  have grounded : Grounded (· ∈ template.reads expression) fun capabilities =>
      template.eval capabilities expression :=
    template.grounded_eval expression fun _ hid => hid
  simp only [mem_arranged]
  exact ⟨grounded.found ended, grounded.missed ended⟩

/-- The resources that a resolution mentions are among the reads of the expression. -/
theorem mem_reads_of_evaluate {capabilities : Capabilities} {expression : Expression}
    {resolution : Resolution} (h : template.evaluate capabilities expression = .ok resolution) {id : String}
    (hid : .resource id ∈ resolution.resolved ∨ .resource id ∈ resolution.unresolved) :
  id ∈ template.reads expression
  := by
  obtain ⟨slot, footprint, ended, rfl⟩ := template.evaluate_eq_ok.mp h
  have grounded : Grounded (· ∈ template.reads expression) fun capabilities =>
      template.eval capabilities expression :=
    template.grounded_eval expression fun _ hid => hid
  apply grounded.within ended
  simpa [mem_arranged] using hid

end Template

end Reconcile
