import Mathlib
import Reconcile.Plan.Basic
import Reconcile.Proofs.Evaluation.Reads
import Reconcile.Proofs.Graph.Edges

/-!
# Coverage

The graph of a template is meant to have an edge for every resource that an evaluation of
properties can ask for.  Whether it has depends on the names that are declared.  An evaluation
and the search for references disagree on some names, those of the concealed resources; when
there are none of these the graph covers everything, and when there is one some properties
escape it.
-/

namespace Reconcile

open Substitution Text

namespace Template

/-- The graph of a template has an edge for every resource that an evaluation of properties asks
for, available or not. -/
def Covered (template : Template) : Prop :=
  ∀ graph, template.graph = .ok graph →
    ∀ logicalId resource, template.resources.get? logicalId = some resource →
      ∀ capabilities resolution,
        template.evaluate capabilities resource.desiredProperties = .ok resolution →
        ∀ id, .resource id ∈ resolution.resolved ∨ .resource id ∈ resolution.unresolved →
          id ∈ graph.dependencies logicalId

/-- Two templates declare the same parameters and the same resources. -/
def SameNames (template other : Template) : Prop :=
  template.parameters.names = other.parameters.names ∧ template.resources.names = other.resources.names

/-- The ways in which an evaluation can ask for a resource without a reference to it being found. -/
inductive Concealed (template : Template) (id : String) : Prop where
  /-- A pseudo-parameter is taken to be meant, even by an attribute. -/
  | pseudoParameter (h : isPseudoParameter id)
  /-- A parameter is taken to be meant, even by an attribute. -/
  | parameter (h : template.isParameter id)
  /-- A placeholder that begins with an exclamation mark after a blank is passed over. -/
  | marked (mark : id.toList.head? = some '!') (closing : '\x7d' ∉ id.toList)
      (whole : IsStripped id ∨ '.' ∉ id.toList)
  /-- A placeholder with a dot is taken to be an attribute of what is before the dot. -/
  | dotted {before after : String} (dot : splitOnce '.' id = some (before, after))
      (declared : template.isParameter before ∨ template.isResource before)
      (closing : '\x7d' ∉ id.toList) (whole : IsStripped id)

/-! ### Names -/

theorem isPseudoParameter_of_splitOnce {name before after : String}
    (dot : splitOnce '.' name = some (before, after)) (h : isPseudoParameter before) :
  isPseudoParameter name
  := by
  obtain ⟨hn, -⟩ := splitOnce_eq_some.mp dot
  unfold isPseudoParameter at h ⊢
  rw [List.isPrefixOf_iff_prefix] at h ⊢
  rw [hn]
  apply h.trans (List.prefix_append _ _)

theorem not_isPseudoParameter_of_marked {name : String} (mark : name.toList.head? = some '!') :
  isPseudoParameter name = false
  := by
  obtain ⟨rest, hr⟩ := List.head?_eq_some_iff.mp mark
  rw [isPseudoParameter, hr]
  rfl

namespace SameNames

variable {template other : Template}

theorem symm (h : template.SameNames other) :
  other.SameNames template
  := ⟨h.1.symm, h.2.symm⟩

theorem isParameter_eq (h : template.SameNames other) :
  template.isParameter = other.isParameter
  := by
  funext name
  apply Bool.eq_iff_iff.mpr
  rw [isParameter, isParameter, Table.contains_iff, Table.contains_iff, h.1]

theorem isResource_eq (h : template.SameNames other) :
  template.isResource = other.isResource
  := by
  funext name
  apply Bool.eq_iff_iff.mpr
  rw [isResource, isResource, Table.contains_iff, Table.contains_iff, h.2]

theorem concealed (h : template.SameNames other) {id : String} (hid : template.Concealed id) :
  other.Concealed id
  := by
  cases hid with
  | pseudoParameter hp => exact .pseudoParameter hp
  | parameter hp => exact .parameter (h.isParameter_eq ▸ hp)
  | marked mark closing whole => exact .marked mark closing whole
  | dotted dot declared closing whole =>
    rw [h.isParameter_eq, h.isResource_eq] at declared
    exact .dotted dot declared closing whole

end SameNames

/-! ### Reads are mentioned -/

variable (template : Template)

/-- A name stands for something. -/
def IsKnown (name : String) : Prop :=
  isPseudoParameter name ∨ template.isParameter name ∨ template.isResource name

theorem isResource_of_mem_attributeReads {logicalId id : String} (h : id ∈ template.attributeReads logicalId) :
  template.isResource id ∧ id = logicalId
  := by
  unfold attributeReads at h
  split at h
  · obtain rfl := List.mem_singleton.mp h
    exact ⟨‹_›, rfl⟩
  · simp at h

theorem isResource_of_mem_refReads {name id : String} (h : id ∈ template.refReads name) :
  template.isResource id ∧ id = name
  := by
  unfold refReads at h
  split at h
  · simp at h
  · apply template.isResource_of_mem_attributeReads h

variable {template}

/-- What a placeholder reads is found as a reference, unless it is concealed. -/
theorem mentions_of_mem_placeholderReads
    (plain : ∀ id, template.isResource id → ¬ template.Concealed id) {name id text : String}
    (hn : name ∈ Segment.placeholders (segments text))
    (known : name ∈ placeholders text → template.IsKnown (Reference.ofPlaceholder name).name)
    (hid : id ∈ template.placeholderReads name) :
  name ∈ placeholders text ∧ (Reference.ofPlaceholder name).name = id
  := by
  obtain ⟨hole, hm, -, rfl⟩ := mem_placeholders_segments.mp hn
  have stripped := isStripped_ofList_trim hole
  have closing : '\x7d' ∉ (String.ofList (trim hole)).toList := by
    rw [String.toList_ofList]
    exact fun h => notMem_of_hole hm (mem_of_mem_trim h)
  have mentioned (unmarked : (String.ofList (trim hole)).toList.head? ≠ some '!') :
      String.ofList (trim hole) ∈ placeholders text :=
    mem_placeholders.mpr ⟨hole, hm, by simpa using unmarked, rfl⟩
  generalize String.ofList (trim hole) = name at *
  unfold placeholderReads at hid
  split at hid
  · -- The placeholder is the name of the resource as a whole.
    obtain ⟨declared, rfl⟩ := template.isResource_of_mem_refReads hid
    have unmarked : id.toList.head? ≠ some '!' :=
      fun mark => plain _ declared (.marked mark closing (.inl stripped))
    refine ⟨mentioned unmarked, ?_⟩
    specialize known (mentioned unmarked)
    cases dot : splitOnce '.' id with
    | none => simp [Reference.ofPlaceholder, dot, Reference.name]
    | some parts =>
      obtain ⟨before, after⟩ := parts
      simp only [Reference.ofPlaceholder, dot, Reference.name] at known
      obtain pseudo | known := known
      · exact absurd (.pseudoParameter (isPseudoParameter_of_splitOnce dot pseudo)) (plain _ declared)
      · exact absurd (.dotted dot known closing stripped) (plain _ declared)
  · -- The placeholder is an attribute of the resource.
    next unknown =>
    cases dot : splitOnce '.' name with
    | none => simp [dot] at hid
    | some parts =>
      obtain ⟨before, after⟩ := parts
      rw [dot] at hid
      obtain ⟨declared, rfl⟩ := template.isResource_of_mem_attributeReads hid
      obtain ⟨whole, free⟩ := splitOnce_eq_some.mp dot
      have unmarked : name.toList.head? ≠ some '!' := by
        intro mark
        apply plain _ declared
        apply Concealed.marked
        · cases hb : id.toList with
          | nil =>
            rw [whole, hb] at mark
            cases mark
          | cons c rest => simpa [whole, hb] using mark
        · intro h
          apply closing
          rw [whole]
          apply List.mem_append_left _ h
        · exact .inr free
      refine ⟨mentioned unmarked, ?_⟩
      simp [Reference.ofPlaceholder, dot, Reference.name]

/-- Every reference of some mentions stands for something. -/
def Known (template : Template) (mentions : List Reference) : Prop :=
  ∀ mention ∈ mentions, template.IsKnown mention.name

theorem Known.append {first second : List Reference} :
  template.Known (first ++ second) ↔ template.Known first ∧ template.Known second
  := by
  simp only [Known, List.mem_append, or_imp, forall_and]

mutual

/-- Whatever an expression reads it mentions, unless it is concealed. -/
theorem exists_mention (plain : ∀ id, template.isResource id → ¬ template.Concealed id)
    (expression : Expression) (known : template.Known expression.mentions) {id : String}
    (hid : id ∈ template.reads expression) :
  ∃ mention ∈ expression.mentions, mention.name = id
  := by
  cases expression with
  | null | bool | number | string | refAll | condition => simp [reads] at hid
  | list items => apply exists_itemMention plain items known hid
  | object fields => apply exists_fieldMention plain fields known hid
  | ref name =>
    obtain ⟨-, rfl⟩ := template.isResource_of_mem_refReads hid
    exact ⟨.value id, by simp [Expression.mentions], rfl⟩
  | getAtt logicalId attr =>
    obtain ⟨-, rfl⟩ := template.isResource_of_mem_attributeReads hid
    exact ⟨.member id, by simp [Expression.mentions], rfl⟩
  | sub text bound =>
    simp only [Expression.mentions, Known.append] at known
    simp only [Expression.mentions, List.mem_append, or_and_right, exists_or]
    simp only [reads, List.mem_append] at hid
    obtain hid | hid := hid
    · exact .inl (exists_fieldMention plain bound known.1 hid)
    · right
      obtain ⟨name, hn, hid⟩ := List.mem_flatMap.mp hid
      obtain ⟨hn, free⟩ := List.mem_filter.mp hn
      have listed (h : name ∈ placeholders text) :
          Reference.ofPlaceholder name ∈ Expression.textMentions text bound :=
        List.mem_map.mpr ⟨name, List.mem_filter.mpr ⟨h, free⟩, rfl⟩
      obtain ⟨hp, he⟩ := mentions_of_mem_placeholderReads plain hn (fun h => known.2 _ (listed h)) hid
      exact ⟨_, listed hp, he⟩
  | ifNamed name holds otherwise =>
    simp only [Expression.mentions, Known.append] at known
    simp only [Expression.mentions, List.mem_append, or_and_right, exists_or]
    simp only [reads, List.mem_append] at hid
    obtain hid | hid := hid
    · exact .inl (exists_mention plain holds known.1 hid)
    · exact .inr (exists_mention plain otherwise known.2 hid)
  | ifValue test holds otherwise =>
    simp only [Expression.mentions, Known.append] at known
    simp only [Expression.mentions, List.mem_append, or_and_right, exists_or]
    simp only [reads, List.mem_append] at hid
    obtain hid | hid | hid := hid
    · exact .inl (exists_mention plain test known.1 hid)
    · exact .inr (.inl (exists_mention plain holds known.2.1 hid))
    · exact .inr (.inr (exists_mention plain otherwise known.2.2 hid))
  | getAZs region => apply exists_mention plain region known hid
  | findInMap map top second =>
    simp only [Expression.mentions, Known.append] at known
    simp only [Expression.mentions, List.mem_append, or_and_right, exists_or]
    simp only [reads, List.mem_append] at hid
    obtain hid | hid | hid := hid
    · exact .inl (exists_mention plain map known.1 hid)
    · exact .inr (.inl (exists_mention plain top known.2.1 hid))
    · exact .inr (.inr (exists_mention plain second known.2.2 hid))
  | unary function argument => apply exists_mention plain argument known hid
  | binary function first second =>
    simp only [Expression.mentions, Known.append] at known
    simp only [Expression.mentions, List.mem_append, or_and_right, exists_or]
    simp only [reads, List.mem_append] at hid
    obtain hid | hid := hid
    · exact .inl (exists_mention plain first known.1 hid)
    · exact .inr (exists_mention plain second known.2 hid)
  | junction connective operands => apply exists_itemMention plain operands known hid

theorem exists_itemMention (plain : ∀ id, template.isResource id → ¬ template.Concealed id)
    (items : List Expression) (known : template.Known (Expression.itemMentions items)) {id : String}
    (hid : id ∈ template.itemReads items) :
  ∃ mention ∈ Expression.itemMentions items, mention.name = id
  := by
  cases items with
  | nil => simp [itemReads] at hid
  | cons item rest =>
    simp only [Expression.itemMentions, Known.append] at known
    simp only [Expression.itemMentions, List.mem_append, or_and_right, exists_or]
    simp only [itemReads, List.mem_append] at hid
    obtain hid | hid := hid
    · exact .inl (exists_mention plain item known.1 hid)
    · exact .inr (exists_itemMention plain rest known.2 hid)

theorem exists_fieldMention (plain : ∀ id, template.isResource id → ¬ template.Concealed id)
    (fields : List (String × Expression)) (known : template.Known (Expression.fieldMentions fields))
    {id : String} (hid : id ∈ template.fieldReads fields) :
  ∃ mention ∈ Expression.fieldMentions fields, mention.name = id
  := by
  match fields with
  | [] => simp [fieldReads] at hid
  | (key, value) :: rest =>
    simp only [Expression.fieldMentions, Known.append] at known
    simp only [Expression.fieldMentions, List.mem_append, or_and_right, exists_or]
    simp only [fieldReads, List.mem_append] at hid
    obtain hid | hid := hid
    · exact .inl (exists_mention plain value known.1 hid)
    · exact .inr (exists_fieldMention plain rest known.2 hid)

end

/-! ### Reads are targets -/

theorem mem_targets {resource : Resource} {target : String} :
  target ∈ template.targets resource
    ↔ (∃ mention ∈ resource.desiredProperties.mentions, mention.name = target
        ∧ isPseudoParameter target = false ∧ template.isParameter target = false)
      ∨ target ∈ resource.dependsOn
  := by
  unfold targets Resource.desiredProperties
  cases resource.properties with
  | none => simp [Expression.mentions, Expression.fieldMentions]
  | some properties =>
    simp only [Option.map_some, Option.getD_some, Expression.references, List.mem_append, List.mem_filter,
      List.mem_map, List.mem_eraseDups, Bool.not_eq_true', Bool.or_eq_false_iff]
    apply or_congr_left
    constructor
    · rintro ⟨⟨mention, hm, hn⟩, free⟩
      exact ⟨mention, hm, hn, free⟩
    · rintro ⟨mention, hm, hn, free⟩
      exact ⟨⟨mention, hm, hn⟩, free⟩

mutual

/-- Only declared resources are read. -/
theorem isResource_of_mem_reads (expression : Expression) {id : String} (hid : id ∈ template.reads expression) :
  template.isResource id
  := by
  cases expression with
  | null | bool | number | string | refAll | condition => simp [reads] at hid
  | list items => apply isResource_of_mem_itemReads items hid
  | object fields => apply isResource_of_mem_fieldReads fields hid
  | ref name => exact (template.isResource_of_mem_refReads hid).1
  | getAtt logicalId attr => exact (template.isResource_of_mem_attributeReads hid).1
  | sub text bound =>
    simp only [reads, List.mem_append] at hid
    obtain hid | hid := hid
    · apply isResource_of_mem_fieldReads bound hid
    · obtain ⟨name, -, hid⟩ := List.mem_flatMap.mp hid
      unfold placeholderReads at hid
      split at hid
      · exact (template.isResource_of_mem_refReads hid).1
      · split at hid
        · exact (template.isResource_of_mem_attributeReads hid).1
        · simp at hid
  | ifNamed name holds otherwise =>
    obtain hid | hid := List.mem_append.mp hid
    · apply isResource_of_mem_reads holds hid
    · apply isResource_of_mem_reads otherwise hid
  | ifValue test holds otherwise =>
    simp only [reads, List.mem_append] at hid
    obtain hid | hid | hid := hid
    · apply isResource_of_mem_reads test hid
    · apply isResource_of_mem_reads holds hid
    · apply isResource_of_mem_reads otherwise hid
  | getAZs region => apply isResource_of_mem_reads region hid
  | findInMap map top second =>
    simp only [reads, List.mem_append] at hid
    obtain hid | hid | hid := hid
    · apply isResource_of_mem_reads map hid
    · apply isResource_of_mem_reads top hid
    · apply isResource_of_mem_reads second hid
  | unary function argument => apply isResource_of_mem_reads argument hid
  | binary function first second =>
    obtain hid | hid := List.mem_append.mp hid
    · apply isResource_of_mem_reads first hid
    · apply isResource_of_mem_reads second hid
  | junction connective operands => apply isResource_of_mem_itemReads operands hid

theorem isResource_of_mem_itemReads (items : List Expression) {id : String}
    (hid : id ∈ template.itemReads items) :
  template.isResource id
  := by
  cases items with
  | nil => simp [itemReads] at hid
  | cons item rest =>
    obtain hid | hid := List.mem_append.mp hid
    · apply isResource_of_mem_reads item hid
    · apply isResource_of_mem_itemReads rest hid

theorem isResource_of_mem_fieldReads (fields : List (String × Expression)) {id : String}
    (hid : id ∈ template.fieldReads fields) :
  template.isResource id
  := by
  match fields with
  | [] => simp [fieldReads] at hid
  | (key, value) :: rest =>
    obtain hid | hid := List.mem_append.mp hid
    · apply isResource_of_mem_reads value hid
    · apply isResource_of_mem_fieldReads rest hid

end

/-- Only declared resources are put off. -/
theorem isResource_of_mem_unresolved {capabilities : Capabilities} {expression : Expression}
    {resolution : Resolution} (h : template.evaluate capabilities expression = .ok resolution) {id : String}
    (hid : id ∈ resolution.unresolvedResources) :
  template.isResource id
  := by
  obtain ⟨d, hd, he⟩ := List.mem_filterMap.mp hid
  cases d with
  | resource other =>
    cases he
    apply isResource_of_mem_reads expression (template.mem_reads_of_evaluate h (.inr hd))
  | _ => cases he

/-- When a template has a graph, the properties of its resources mention only names that stand for something. -/
theorem known_mentions {graph : Graph} (built : template.graph = .ok graph) {logicalId : String}
    {resource : Resource} (hr : template.resources.get? logicalId = some resource) :
  template.Known resource.desiredProperties.mentions
  := by
  intro mention hm
  cases hp : isPseudoParameter mention.name with
  | true => exact .inl hp
  | false =>
    cases hq : template.isParameter mention.name with
    | true => exact .inr (.inl hq)
    | false => exact .inr (.inr (isResource_of_mem_targets built hr (mem_targets.mpr (.inl ⟨mention, hm, rfl, hp, hq⟩))))

/-- Without concealed resources, whatever the properties of a resource read is among its targets. -/
theorem mem_targets_of_mem_reads {graph : Graph} (built : template.graph = .ok graph)
    (plain : ∀ id, template.isResource id → ¬ template.Concealed id) {logicalId : String} {resource : Resource}
    (hr : template.resources.get? logicalId = some resource) {id : String}
    (hid : id ∈ template.reads resource.desiredProperties) :
  id ∈ template.targets resource
  := by
  obtain ⟨mention, hm, rfl⟩ := exists_mention plain _ (known_mentions built hr) hid
  have declared := isResource_of_mem_reads _ hid
  apply mem_targets.mpr
  refine .inl ⟨mention, hm, rfl, ?_, ?_⟩
  · apply Bool.eq_false_iff.mpr fun h => plain _ declared (.pseudoParameter h)
  · apply Bool.eq_false_iff.mpr fun h => plain _ declared (.parameter h)

theorem covered_of_plain (plain : ∀ id, template.isResource id → ¬ template.Concealed id) :
  template.Covered
  := by
  intro graph built logicalId resource hr capabilities resolution evaluated id hid
  rw [Graph.mem_dependencies, mem_edges_graph built]
  have read := template.mem_reads_of_evaluate evaluated hid
  exact ⟨resource, hr, mem_targets_of_mem_reads built plain hr read⟩

/-! ### Probes of concealed resources -/

/-- An expression asks for a resource, and all that it refers to are other things. -/
structure Probe (template : Template) (id : String) (probe : Expression) : Prop where
  asks : ∀ capabilities : Capabilities, capabilities.find (.resource id) = .ok none →
    template.evaluate capabilities probe = .ok ⟨none, [], [.resource id]⟩
  elsewhere : ∀ mention ∈ probe.mentions,
    isPseudoParameter mention.name ∨ template.isParameter mention.name
      ∨ template.isResource mention.name ∧ mention.name ≠ id

theorem inquire_of_find_eq_none {capabilities : Capabilities} {dependency : Dependency}
    (h : capabilities.find dependency = .ok none) :
  capabilities.inquire dependency = .waiting dependency none
  := by
  rw [Capabilities.inquire, h]

/-- An expression whose evaluation stops at a resource that is not available. -/
theorem evaluate_of_eval_waiting {capabilities : Capabilities} {expression : Expression} {id : String}
    (h : template.eval capabilities expression = .waiting (.resource id) .pending) :
  template.evaluate capabilities expression = .ok ⟨none, [], [.resource id]⟩
  := by
  apply template.evaluate_eq_ok.mpr
  refine ⟨.pending, _, h, ?_⟩
  simp [Slot.argument?, arranged, List.eraseDups_cons]

theorem evalGetAtt_of_find_eq_none {capabilities : Capabilities} {id : String} (attr : String)
    (hr : template.isResource id) (h : capabilities.find (.resource id) = .ok none) :
  template.evalGetAtt capabilities id attr = .waiting (.resource id) .pending
  := by
  rw [evalGetAtt_eq, if_pos hr, inquire_of_find_eq_none h]
  rfl

theorem evalRef_of_find_eq_none {capabilities : Capabilities} {id : String}
    (hp : isPseudoParameter id = false) (hq : template.isParameter id = false) (hr : template.isResource id)
    (h : capabilities.find (.resource id) = .ok none) :
  template.evalRef capabilities id = .waiting (.resource id) .pending
  := by
  have hn : id ≠ "AWS::NoValue" := by
    rintro rfl
    exact absurd hp (by decide)
  have hd : template.dependencyOf? id = some (.resource id) := by
    simp [dependencyOf?, hp, hq, hr]
  rw [evalRef_eq, if_neg hn, hd]
  dsimp only
  rw [inquire_of_find_eq_none h]
  rfl

/-- A placeholder as a probe: it asks for the resource, and either begins with an exclamation mark or
refers to something else. -/
theorem probe_writing {id name : String} (stripped : IsStripped name) (closing : '\x7d' ∉ name.toList)
    (asks : ∀ capabilities : Capabilities, capabilities.find (.resource id) = .ok none →
      template.evalPlaceholder capabilities name = .waiting (.resource id) .pending)
    (elsewhere : name.toList.head? ≠ some '!' →
      isPseudoParameter (Reference.ofPlaceholder name).name
        ∨ template.isParameter (Reference.ofPlaceholder name).name
        ∨ template.isResource (Reference.ofPlaceholder name).name ∧ (Reference.ofPlaceholder name).name ≠ id) :
  template.Probe id (.sub (writing name) [])
  := by
  constructor
  · intro capabilities h
    apply evaluate_of_eval_waiting
    simp only [eval, segments_writing stripped closing, evalSegments, evalVariable, Option.getD_none,
      asks capabilities h]
    rfl
  · intro mention hm
    simp only [Expression.mentions, Expression.fieldMentions, Expression.textMentions,
      placeholders_writing stripped closing, lookup, List.nil_append] at hm
    split at hm
    · simp at hm
    · next unmarked =>
      obtain rfl : mention = Reference.ofPlaceholder name := by simpa using hm
      apply elsewhere unmarked

/-- A name that is longer than every name that is declared. -/
def spare (template : Template) : String :=
  String.ofList
    (List.replicate ((template.parameters.names ++ template.resources.names).map String.length).sum.succ 'a')

theorem length_lt_spare {name : String} (h : template.isParameter name ∨ template.isResource name) :
  name.length < template.spare.length
  := by
  have hm : name ∈ template.parameters.names ++ template.resources.names := by
    rw [List.mem_append, ← Table.contains_iff, ← Table.contains_iff]
    apply h
  have := List.le_sum_of_mem (List.mem_map_of_mem (f := String.length) hm)
  simp only [spare, String.length_ofList, List.length_replicate]
  omega

/-- A concealed resource has a probe that works in every template with the same names. -/
theorem Concealed.exists_probe {id : String} (h : template.Concealed id) (hr : template.isResource id) :
  ∃ probe, ∀ other : Template, template.SameNames other → other.Probe id probe
  := by
  have meant (hm : isPseudoParameter id ∨ template.isParameter id) :
      ∃ probe, ∀ other : Template, template.SameNames other → other.Probe id probe := by
    use .getAtt id "a"
    intro other same
    rw [same.isResource_eq] at hr
    rw [same.isParameter_eq] at hm
    constructor
    · intro capabilities hf
      apply evaluate_of_eval_waiting
      simp only [eval, evalGetAtt_of_find_eq_none "a" hr hf]
    · intro mention hmention
      obtain rfl : mention = .member id := by simpa [Expression.mentions] using hmention
      apply hm.imp_right .inl
  by_cases hm : isPseudoParameter id ∨ template.isParameter id
  · apply meant hm
  simp only [not_or, Bool.not_eq_true] at hm
  obtain ⟨hp, hq⟩ := hm
  have whole (stripped : IsStripped id) (closing : '\x7d' ∉ id.toList)
      (elsewhere : id.toList.head? ≠ some '!' → template.isParameter (Reference.ofPlaceholder id).name
        ∨ template.isResource (Reference.ofPlaceholder id).name ∧ (Reference.ofPlaceholder id).name ≠ id) :
      ∃ probe, ∀ other : Template, template.SameNames other → other.Probe id probe := by
    use .sub (writing id) []
    intro other same
    rw [same.isResource_eq] at hr
    rw [same.isParameter_eq] at hq
    apply probe_writing stripped closing
    · intro capabilities hf
      rw [evalPlaceholder, if_pos (by simp [hr])]
      apply evalRef_of_find_eq_none hp hq hr hf
    · intro unmarked
      rw [← same.isResource_eq, ← same.isParameter_eq]
      exact .inr (elsewhere unmarked)
  cases h with
  | pseudoParameter hp => apply meant (.inl hp)
  | parameter hq => apply meant (.inr hq)
  | dotted dot declared closing stripped =>
    apply whole stripped closing
    intro _
    simp only [Reference.ofPlaceholder, dot, Reference.name]
    refine declared.imp_right fun hb => ⟨hb, ?_⟩
    rintro rfl
    obtain ⟨he, -⟩ := splitOnce_eq_some.mp dot
    simpa using congrArg List.length he
  | marked mark closing stripped =>
    obtain stripped | free := stripped
    · apply whole stripped closing (absurd mark)
    -- An attribute of the resource whose name is too long to be declared as a whole.
    let name := id ++ "." ++ template.spare
    have characters : name.toList = id.toList ++ '.' :: template.spare.toList := by simp [name]
    have dot : splitOnce '.' name = some (id, template.spare) := splitOnce_eq_some.mpr ⟨characters, free⟩
    have marked : name.toList.head? = some '!' := by rw [characters, List.head?_append, mark]; rfl
    have last : name.toList.getLast? = some 'a' := by
      simp [characters, spare, List.getLast?_append, List.getLast?_cons, List.getLast?_replicate]
    have stripped : IsStripped name := by
      unfold IsStripped strip
      rw [trim_eq_self, String.ofList_toList]
      · intro c hc
        obtain rfl := Option.some.inj (marked.symm.trans hc)
        decide
      · intro c hc
        obtain rfl := Option.some.inj (last.symm.trans hc)
        decide
    have unclosed : '\x7d' ∉ name.toList := by
      simp [characters, closing, spare]
    have unknown : ¬ (template.isParameter name ∨ template.isResource name) := by
      intro h
      have := length_lt_spare h
      simp only [name, String.length_append] at this
      omega
    use .sub (writing name) []
    intro other same
    rw [same.isResource_eq] at hr
    rw [same.isParameter_eq, same.isResource_eq] at unknown
    simp only [not_or, Bool.not_eq_true] at unknown
    apply probe_writing stripped unclosed
    · intro capabilities hf
      rw [evalPlaceholder, if_neg]
      · simp only [dot, hr, if_true]
        apply evalGetAtt_of_find_eq_none _ hr hf
      · simp [not_isPseudoParameter_of_marked marked, unknown.1, unknown.2]
    · exact absurd marked

/-! ### Templates that hold a probe -/

/-- The template with the names of another one in which only one resource has properties. -/
def probed (template : Template) (id : String) (probe : Expression) : Template where
  parameters := template.parameters.map fun _ => { type := .string, default := some (.string "") }
  resources :=
    (template.resources.map fun _ => { type := "" }).insert id { type := "", properties := some probe }

theorem sameNames_probed {id : String} (hr : template.isResource id) (probe : Expression) :
  template.SameNames (template.probed id probe)
  := by
  constructor
  · simp [probed]
  · rw [probed, Table.names_insert]
    · simp
    · rw [Table.names_map]
      exact (Table.contains_iff _ _).mp hr

theorem get?_resources_probed (id : String) (probe : Expression) :
  (template.probed id probe).resources.get? id = some { type := "", properties := some probe }
  := by
  rw [probed, Table.get?_insert, if_pos rfl]

/-- A template in which only one resource has properties, which refer to other things, has a graph, whose
edges lead from that resource to others. -/
theorem exists_graph_probed {id : String} {probe : Expression}
    (elsewhere : ∀ mention ∈ probe.mentions,
      isPseudoParameter mention.name ∨ (template.probed id probe).isParameter mention.name
        ∨ (template.probed id probe).isResource mention.name ∧ mention.name ≠ id) :
  ∃ graph, (template.probed id probe).graph = .ok graph
    ∧ ∀ source target, (source, target) ∈ graph.edges → source = id ∧ target ≠ id
  := by
  have targets (logicalId : String) (resource : Resource)
      (hr : (template.probed id probe).resources.get? logicalId = some resource) (target : String)
      (ht : target ∈ (template.probed id probe).targets resource) :
      logicalId = id ∧ target ≠ id ∧ (template.probed id probe).isResource target := by
    rw [mem_targets] at ht
    rw [probed, Table.get?_insert] at hr
    split at hr
    · next he =>
      cases hr
      obtain ⟨mention, hm, rfl, hp, hq⟩ | ht := ht
      · obtain hp' | hq' | ⟨hr, hne⟩ := elsewhere mention hm
        · simp [hp] at hp'
        · simp [hq] at hq'
        · exact ⟨he, hne, hr⟩
      · simp at ht
    · rw [Table.get?_map] at hr
      obtain ⟨-, -, rfl⟩ := Option.map_eq_some_iff.mp hr
      simp [Resource.desiredProperties, Expression.mentions, Expression.fieldMentions] at ht
  obtain ⟨graph, built⟩ := exists_graph fun logicalId resource hr target ht =>
    (targets logicalId resource hr target ht).2.2
  use graph, built
  intro source target he
  obtain ⟨resource, hr, ht⟩ := (mem_edges_graph built source target).mp he
  obtain ⟨hs, hne, -⟩ := targets source resource hr target ht
  exact ⟨hs, hne⟩

/-- A template that holds a probe is not covered. -/
theorem not_covered_probed {id : String} {probe : Expression}
    (probes : (template.probed id probe).Probe id probe) :
  ¬ (template.probed id probe).Covered
  := by
  intro covered
  obtain ⟨graph, built, edges⟩ := exists_graph_probed probes.elsewhere
  have evaluated := probes.asks {} rfl
  have edge := covered graph built id _ (get?_resources_probed id probe) {} _ evaluated id (by simp)
  rw [Graph.mem_dependencies] at edge
  exact (edges id id edge).2 rfl

/-- The templates with some names are all covered precisely when no resource is concealed. -/
theorem forall_covered_iff (template : Template) :
  (∀ other, template.SameNames other → other.Covered)
    ↔ ∀ id, template.isResource id → ¬ template.Concealed id
  := by
  constructor
  · intro covered id hr concealed
    obtain ⟨probe, probes⟩ := concealed.exists_probe hr
    have same := sameNames_probed hr probe
    apply not_covered_probed (probes _ same) (covered _ same)
  · intro plain other same
    apply covered_of_plain
    intro id hr concealed
    rw [← same.isResource_eq] at hr
    apply plain id hr (same.symm.concealed concealed)

/-- A template in which a parameter and a resource have the same name. -/
def shadowed : Template where
  parameters := .ofList [("A", { type := .string, default := some (.string "x") })]
  resources := .ofList [
    ("A", { type := "T" }),
    ("X", { type := "T", properties := some (.object [("P", .getAtt "A" "Arn")]) })]

/-- The attribute of the one that is a resource is asked for, and there is no edge for it. -/
theorem not_covered_shadowed :
  ¬ shadowed.Covered
  := by
  intro covered
  have built : shadowed.graph = .ok (Graph.ofNodes ["A", "X"]) := rfl
  have declared : shadowed.resources.get? "X"
      = some { type := "T", properties := some (.object [("P", .getAtt "A" "Arn")]) } := rfl
  have evaluated : shadowed.evaluate {} (.object [("P", .getAtt "A" "Arn")])
      = .ok ⟨none, [], [.resource "A"]⟩ := evaluate_of_eval_waiting rfl
  have edge := covered _ built "X" _ declared {} _ evaluated "A" (by simp)
  simp [Graph.mem_dependencies] at edge

end Template

end Reconcile
