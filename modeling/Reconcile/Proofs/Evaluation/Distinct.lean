import Mathlib.Tactic.Common
import Reconcile.Plan.Basic
import Reconcile.Proofs.Evaluation.Reads
import Reconcile.Proofs.Json.Distinct
import Reconcile.Proofs.Outcome
import Reconcile.Proofs.Table

/-!
# Values of evaluations have no repeated names

When no name is repeated in an expression, in the mappings, or in what the dependencies have to
offer, none is repeated in the value of the expression.
-/

namespace Reconcile

/-! ### What has no repeated names -/

/-- In no object of an expression a name is repeated. -/
inductive Expression.Distinct : Expression → Prop where
  | null : Distinct .null
  | bool (b : Bool) : Distinct (.bool b)
  | number (n : Number) : Distinct (.number n)
  | string (s : String) : Distinct (.string s)
  | list {items : List Expression} (items_distinct : ∀ item ∈ items, item.Distinct) : Distinct (.list items)
  | object {fields : List (String × Expression)} (nodup : (fields.map (·.1)).Nodup)
      (fields_distinct : ∀ field ∈ fields, field.2.Distinct) : Distinct (.object fields)
  | ref (name : String) : Distinct (.ref name)
  | getAtt (logicalId attr : String) : Distinct (.getAtt logicalId attr)
  | sub {text : String} {bound : List (String × Expression)} : Distinct (.sub text bound)
  | refAll (type : String) : Distinct (.refAll type)
  | condition (name : String) : Distinct (.condition name)
  | ifNamed {condition : String} {holds otherwise : Expression} (first : holds.Distinct)
      (second : otherwise.Distinct) : Distinct (.ifNamed condition holds otherwise)
  | ifValue {test holds otherwise : Expression} (first : holds.Distinct) (second : otherwise.Distinct) :
    Distinct (.ifValue test holds otherwise)
  | getAZs (region : Expression) : Distinct (.getAZs region)
  | findInMap (map top second : Expression) : Distinct (.findInMap map top second)
  | unary (function : Unary) (argument : Expression) : Distinct (.unary function argument)
  | binary {function : Binary} {first second : Expression} (second_distinct : second.Distinct) :
    Distinct (.binary function first second)
  | junction (connective : Junction) (operands : List Expression) : Distinct (.junction connective operands)

/-- In no properties and in no attribute of a physical resource a name is repeated. -/
structure PhysicalResource.Distinct (resource : PhysicalResource) : Prop where
  properties : resource.inputProperties.Distinct
  attributes : resource.attributes.Distinct

/-- In nothing that is found of a dependency a name is repeated. -/
def Capabilities.Distinct (capabilities : Capabilities) : Prop :=
  ∀ dependency finding, capabilities.find dependency = .ok (some finding) →
    match finding with
    | .value value => value.Distinct
    | .truth _ => True
    | .resource resource => resource.Distinct

/-- In no properties of the resources of a template, and in no value of its mappings, a name is repeated. -/
structure Template.Distinct (template : Template) : Prop where
  properties : ∀ id resource, template.resources.get? id = some resource → resource.desiredProperties.Distinct
  mappings : ∀ map tops top seconds second value, template.mappings.get? map = some tops →
    tops.get? top = some seconds → seconds.get? second = some value → value.Distinct

/-- In the value of a slot no name is repeated. -/
def Slot.Distinct (slot : Slot) : Prop := ∀ value, slot = .ready value → value.Distinct

/-! ### Results of computations -/

namespace Evaluation

variable {α β : Type}

/-- The result of a computation, unless it fails, has some property. -/
def Yields (holds : α → Prop) : Evaluation α → Prop
  | .failed _ => True
  | .ended a _ => holds a

theorem Yields.of_forall {holds : α → Prop} (h : ∀ a, holds a) (evaluation : Evaluation α) :
  evaluation.Yields holds
  := by
  cases evaluation with
  | failed error => trivial
  | ended a footprint => apply h

theorem Yields.andThen {holds : α → Prop} {holds' : β → Prop} {first : Evaluation α} {next : α → Evaluation β}
    (hf : first.Yields holds) (hn : ∀ a, holds a → (next a).Yields holds') :
  (first.andThen next).Yields holds'
  := by
  cases first with
  | failed error => trivial
  | ended a footprint =>
    have after := hn a hf
    simp only [Evaluation.andThen]
    cases hb : next a with
    | failed error => trivial
    | ended b footprint' =>
      rw [hb] at after
      apply after

/-- Whatever the first result is, the second has the property. -/
theorem Yields.next {holds : β → Prop} {first : Evaluation α} {next : α → Evaluation β}
    (h : ∀ a, (next a).Yields holds) :
  (first.andThen next).Yields holds
  := (Yields.of_forall (fun _ => trivial) first).andThen fun a (_ : True) => h a

theorem Yields.lift {holds : α → Prop} {outcome : Except EvaluationError α} (h : ∀ a, outcome = .ok a → holds a) :
  (Evaluation.lift outcome).Yields holds
  := by
  cases outcome with
  | error error => trivial
  | ok a => apply h a rfl

end Evaluation

open Evaluation

namespace Slot

theorem Distinct.ready {value : Json} (distinct : value.Distinct) :
  (Slot.ready value).Distinct
  := by
  rintro _ ⟨⟩
  apply distinct

theorem Distinct.pending :
  Slot.pending.Distinct
  := nofun

theorem Distinct.argument? {slot : Slot} (distinct : slot.Distinct) {value : Json}
    (h : slot.argument? = some value) :
  value.Distinct
  := by
  cases slot with
  | ready value' =>
    cases h
    apply distinct _ rfl
  | noValue =>
    cases h
    exact .null
  | pending => cases h

theorem Distinct.ready? {slot : Slot} (distinct : slot.Distinct) {value : Json} (h : slot.ready? = some value) :
  value.Distinct
  := by
  cases slot with
  | ready value' =>
    cases h
    apply distinct _ rfl
  | _ => cases h

theorem Distinct.ofItems {slots : List Slot} (distinct : ∀ slot ∈ slots, slot.Distinct) :
  (Slot.ofItems slots).Distinct
  := by
  unfold Slot.ofItems
  split
  · exact .pending
  · apply Distinct.ready
    apply Json.Distinct.list
    intro item hi
    obtain ⟨slot, hs, hr⟩ := List.mem_filterMap.mp hi
    exact (distinct slot hs).ready? hr

theorem Distinct.ofFields {slots : List (String × Slot)} (nodup : (slots.map (·.1)).Nodup)
    (distinct : ∀ slot ∈ slots, slot.2.Distinct) :
  (Slot.ofFields slots).Distinct
  := by
  unfold Slot.ofFields
  split
  · exact .pending
  · apply Distinct.ready
    apply Json.Distinct.object
    · rw [map_filterMap_fst fun slot : String × Slot => slot.2.ready?]
      apply nodup.sublist (List.filter_sublist.map _)
    · intro field hf
      obtain ⟨slot, hs, hr⟩ := List.mem_filterMap.mp hf
      obtain ⟨value, hv, rfl⟩ := Option.map_eq_some_iff.mp hr
      exact (distinct slot hs).ready? hv

end Slot

/-! ### Attributes, references and functions -/

theorem PhysicalResource.Distinct.attribute? {resource : PhysicalResource} (distinct : resource.Distinct)
    {name : String} {value : Json} (h : resource.attribute? name = some value) :
  value.Distinct
  := by
  have descended (path : List String) {first : Json} (distinct : first.Distinct)
      (h : PhysicalResource.descend path first = some value) : value.Distinct := by
    induction path generalizing first with
    | nil =>
      cases h
      apply distinct
    | cons name rest ih =>
      obtain ⟨field, hf, h⟩ := Option.bind_eq_some_iff.mp h
      exact ih (distinct.field? hf) h
  unfold PhysicalResource.attribute? at h
  split at h
  · next value' found =>
    cases h
    apply distinct.attributes name value found
  · split at h
    · cases h
    · next first path _ =>
      obtain ⟨value', found, h⟩ := Option.bind_eq_some_iff.mp h
      exact descended path (distinct.attributes first value' found) h

theorem Binary.distinct_apply {function : Binary} {first second value : Json} (distinct : second.Distinct)
    (h : function.apply first second = .ok value) :
  value.Distinct
  := by
  cases function with
  | select =>
    obtain ⟨index, -, h⟩ := Except.bind_eq_ok.mp h
    obtain ⟨items, listed, selected⟩ := Except.bind_eq_ok.mp h
    cases distinct with
    | list distinct =>
      cases listed
      split at selected
      · next item found =>
        cases selected
        split at found
        · cases found
        · apply distinct value (List.mem_of_getElem? found)
      · cases selected
    | _ => cases listed
  | equals =>
    cases h
    exact .bool _
  | contains =>
    obtain ⟨_, -, h⟩ := Except.bind_eq_ok.mp h
    obtain ⟨_, -, ⟨⟩⟩ := Except.bind_eq_ok.mp h
    exact .bool _
  | eachMemberEquals =>
    obtain ⟨_, -, h⟩ := Except.bind_eq_ok.mp h
    obtain ⟨_, -, ⟨⟩⟩ := Except.bind_eq_ok.mp h
    exact .bool _
  | eachMemberIn =>
    obtain ⟨_, -, h⟩ := Except.bind_eq_ok.mp h
    obtain ⟨_, -, ⟨⟩⟩ := Except.bind_eq_ok.mp h
    exact .bool _

theorem Unary.distinct_apply {function : Unary} {argument value : Json} (h : function.apply argument = .ok value) :
  value.Distinct
  := by
  cases function with
  | join delimiter =>
    obtain ⟨_, -, h⟩ := Except.bind_eq_ok.mp h
    obtain ⟨_, -, ⟨⟩⟩ := Except.bind_eq_ok.mp h
    exact .string _
  | split delimiter =>
    obtain ⟨_, -, ⟨⟩⟩ := Except.bind_eq_ok.mp h
    apply Json.Distinct.strings
  | base64 =>
    obtain ⟨_, -, ⟨⟩⟩ := Except.bind_eq_ok.mp h
    exact .string _
  | not =>
    obtain ⟨_, -, ⟨⟩⟩ := Except.bind_eq_ok.mp h
    exact .bool _
  | length =>
    obtain ⟨_, -, ⟨⟩⟩ := Except.bind_eq_ok.mp h
    exact .number _
  | toJsonString =>
    cases h
    exact .string _

namespace Capabilities

variable {capabilities : Capabilities}

theorem distinct_refValue (capabilities : Capabilities) {resource : PhysicalResource} (h : resource.Distinct) :
  (Template.refValue capabilities resource).Distinct
  := by
  unfold Template.refValue
  dsimp only
  split
  · next value projected =>
    obtain ⟨view, -, h'⟩ := Option.bind_eq_some_iff.mp projected
    obtain ⟨attr, -, found⟩ := Option.bind_eq_some_iff.mp h'
    apply h.attribute? found
  · exact .string _
  · exact .null

theorem Distinct.inquire (distinct : capabilities.Distinct) (dependency : Dependency) :
  (capabilities.inquire dependency).Yields fun finding => (capabilities.slotOf finding).Distinct
    ∧ ∀ resource, finding.bind Finding.resource? = some resource → resource.Distinct
  := by
  unfold Capabilities.inquire
  match hf : capabilities.find dependency with
  | .error error => trivial
  | .ok none => exact ⟨.pending, nofun⟩
  | .ok (some (.value value)) => exact ⟨.ready (distinct _ _ hf), nofun⟩
  | .ok (some (.truth holds)) => exact ⟨.ready (.bool holds), nofun⟩
  | .ok (some (.resource resource)) =>
    have found := distinct _ _ hf
    refine ⟨.ready (distinct_refValue capabilities found), ?_⟩
    rintro _ ⟨⟩
    apply found

end Capabilities

namespace Template

variable {template : Template} {capabilities : Capabilities}

theorem yields_evalRef (distinct : capabilities.Distinct) (name : String) :
  (template.evalRef capabilities name).Yields Slot.Distinct
  := by
  rw [evalRef_eq]
  split
  · exact nofun
  · split
    · apply (distinct.inquire _).andThen
      intro finding found
      apply found.1
    · trivial

theorem yields_evalGetAtt (distinct : capabilities.Distinct) (logicalId attr : String) :
  (template.evalGetAtt capabilities logicalId attr).Yields Slot.Distinct
  := by
  rw [evalGetAtt_eq]
  split
  · apply (distinct.inquire _).andThen
    intro finding found
    split
    · exact .pending
    · next resource he =>
      split
      · next value ha => exact .ready ((found.2 resource he).attribute? ha)
      · trivial
  · trivial

theorem yields_evalRefs (distinct : capabilities.Distinct) (names : List String) :
  (template.evalRefs capabilities names).Yields fun slots => ∀ slot ∈ slots, slot.Distinct
  := by
  induction names with
  | nil => exact nofun
  | cons name rest ih =>
    apply (yields_evalRef distinct name).andThen
    intro slot hs
    apply ih.andThen
    intro slots hr
    exact List.forall_mem_cons.mpr ⟨hs, hr⟩

theorem yields_evalZones (region : Json) :
  (template.evalZones capabilities region).Yields Slot.Distinct
  := by
  apply Yields.next
  intro region
  split
  · apply Yields.next
    intro slot
    split
    · apply Yields.next
      intro current
      exact Slot.Distinct.ready (.strings _)
    · exact Slot.Distinct.pending
  · exact Slot.Distinct.ready (.strings _)

theorem distinct_findInMap (consistent : template.Distinct) {map top second value : Json}
    (h : template.findInMap map top second = .ok value) :
  value.Distinct
  := by
  obtain ⟨map, -, h⟩ := Except.bind_eq_ok.mp h
  obtain ⟨top, -, h⟩ := Except.bind_eq_ok.mp h
  obtain ⟨second, -, h⟩ := Except.bind_eq_ok.mp h
  split at h
  · next value' found =>
    cases h
    obtain ⟨seconds, found, hv⟩ := Option.bind_eq_some_iff.mp found
    obtain ⟨tops, ht, hs⟩ := Option.bind_eq_some_iff.mp found
    exact consistent.mappings map tops top seconds second value ht hs hv
  · cases h

mutual

theorem yields_eval (distinct : capabilities.Distinct) (consistent : template.Distinct) (expression : Expression)
    (h : expression.Distinct) :
  (template.eval capabilities expression).Yields Slot.Distinct
  := by
  cases expression with
  | null =>
    simp only [eval]
    exact Slot.Distinct.ready .null
  | bool b =>
    simp only [eval]
    exact Slot.Distinct.ready (.bool b)
  | number n =>
    simp only [eval]
    exact Slot.Distinct.ready (.number n)
  | string s =>
    simp only [eval]
    exact Slot.Distinct.ready (.string s)
  | list items =>
    cases h with
    | list items_distinct =>
      simp only [eval]
      apply (yields_evalItems distinct consistent items items_distinct).andThen
      intro slots hs
      exact Slot.Distinct.ofItems hs
  | object fields =>
    cases h with
    | object nodup fields_distinct =>
      simp only [eval]
      apply (yields_evalFields distinct consistent fields fields_distinct).andThen
      rintro slots ⟨names, hs⟩
      exact Slot.Distinct.ofFields (names ▸ nodup) hs
  | ref name =>
    simp only [eval]
    apply yields_evalRef distinct
  | getAtt logicalId attr =>
    simp only [eval]
    apply yields_evalGetAtt distinct
  | sub text bound =>
    simp only [eval]
    apply Yields.next
    intro text
    cases text with
    | none => exact Slot.Distinct.pending
    | some text => exact Slot.Distinct.ready (.string text)
  | refAll type =>
    simp only [eval]
    apply (yields_evalRefs distinct _).andThen
    intro slots hs
    exact Slot.Distinct.ofItems hs
  | condition name =>
    simp only [eval]
    apply Yields.next
    intro holds
    cases holds with
    | none => exact Slot.Distinct.pending
    | some holds => exact Slot.Distinct.ready (.bool holds)
  | ifNamed name holds otherwise =>
    cases h with
    | ifNamed first second =>
      simp only [eval]
      apply Yields.next
      intro truth
      match truth with
      | none => exact Slot.Distinct.pending
      | some true => exact yields_eval distinct consistent holds first
      | some false => exact yields_eval distinct consistent otherwise second
  | ifValue test holds otherwise =>
    cases h with
    | ifValue first second =>
      simp only [eval]
      apply Yields.next
      intro slot
      cases slot.argument? with
      | none => exact Slot.Distinct.pending
      | some value =>
        apply Yields.next
        intro truth
        cases truth with
        | true => exact yields_eval distinct consistent holds first
        | false => exact yields_eval distinct consistent otherwise second
  | getAZs region =>
    simp only [eval]
    apply Yields.next
    intro slot
    cases slot.argument? with
    | none => exact Slot.Distinct.pending
    | some region => apply yields_evalZones
  | findInMap map top second =>
    simp only [eval]
    apply Yields.next
    intro map
    apply Yields.next
    intro top
    apply Yields.next
    intro second
    split
    · apply Yields.lift
      intro slot found
      obtain ⟨value, hv, rfl⟩ := Except.map_eq_ok.mp found
      exact Slot.Distinct.ready (distinct_findInMap consistent hv)
    · exact Slot.Distinct.pending
  | unary function argument =>
    simp only [eval]
    apply Yields.next
    intro _
    apply Yields.next
    intro slot
    unfold Slot.ofArgument
    split
    · exact Slot.Distinct.pending
    · apply Yields.lift
      intro slot applied
      obtain ⟨value, hv, rfl⟩ := Except.map_eq_ok.mp applied
      exact Slot.Distinct.ready (Unary.distinct_apply hv)
  | binary function first second =>
    cases h with
    | binary second_distinct =>
      simp only [eval]
      apply Yields.next
      intro first
      apply (yields_eval distinct consistent second second_distinct).andThen
      intro slot hs
      split
      · next first second _ argument =>
        apply Yields.lift
        intro slot applied
        obtain ⟨value, hv, rfl⟩ := Except.map_eq_ok.mp applied
        exact Slot.Distinct.ready (Binary.distinct_apply (hs.argument? argument) hv)
      · exact Slot.Distinct.pending
  | junction connective operands =>
    simp only [eval]
    apply Yields.next
    intro _
    apply Yields.next
    intro operands
    cases operands with
    | none => exact Slot.Distinct.pending
    | some operands => exact Slot.Distinct.ready (.bool _)

theorem yields_evalItems (distinct : capabilities.Distinct) (consistent : template.Distinct)
    (items : List Expression) (h : ∀ item ∈ items, item.Distinct) :
  (template.evalItems capabilities items).Yields fun slots => ∀ slot ∈ slots, slot.Distinct
  := by
  cases items with
  | nil =>
    simp only [evalItems]
    exact nofun
  | cons item rest =>
    simp only [evalItems]
    apply (yields_eval distinct consistent item (h item List.mem_cons_self)).andThen
    intro slot hs
    apply (yields_evalItems distinct consistent rest fun other ho => h other (List.mem_cons_of_mem _ ho)).andThen
    intro slots hr
    exact List.forall_mem_cons.mpr ⟨hs, hr⟩

theorem yields_evalFields (distinct : capabilities.Distinct) (consistent : template.Distinct)
    (fields : List (String × Expression)) (h : ∀ field ∈ fields, field.2.Distinct) :
  (template.evalFields capabilities fields).Yields fun slots =>
    slots.map (·.1) = fields.map (·.1) ∧ ∀ slot ∈ slots, slot.2.Distinct
  := by
  match fields with
  | [] =>
    simp only [evalFields]
    exact ⟨rfl, nofun⟩
  | (key, value) :: rest =>
    simp only [evalFields]
    apply (yields_eval distinct consistent value (h _ List.mem_cons_self)).andThen
    intro slot hs
    apply (yields_evalFields distinct consistent rest fun other ho => h other (List.mem_cons_of_mem _ ho)).andThen
    rintro slots ⟨names, hr⟩
    exact ⟨congrArg (key :: ·) names, List.forall_mem_cons.mpr ⟨hs, hr⟩⟩

end

/-- No name is repeated in a value that has been realized. -/
theorem distinct_realize (distinct : capabilities.Distinct) (consistent : template.Distinct)
    {expression : Expression} (h : expression.Distinct) {resolution : Resolution}
    (evaluated : template.evaluate capabilities expression = .ok resolution) {value : Json}
    (realized : resolution.realize = .ok value) :
  value.Distinct
  := by
  obtain ⟨slot, footprint, ended, rfl⟩ := template.evaluate_eq_ok.mp evaluated
  have yields := yields_eval distinct consistent expression h
  rw [ended] at yields
  obtain ⟨hv, -⟩ := Resolution.realize_eq_ok.mp realized
  exact Slot.Distinct.argument? yields hv

end Template

end Reconcile
