import Mathlib
import Reconcile.Proofs.Evaluation.Strays
import Reconcile.Proofs.Graph.Coverage
import Reconcile.Proofs.Graph.Cycles

/-!
# Foresight

The graph of a template is meant to be refused when a name means nothing to the evaluator.  The
search for references, on which the graph rests, takes some names for something that they are not
at their sites: the attribute of a parameter or of a pseudo-parameter, a placeholder that begins
with an exclamation mark after a blank, and a placeholder whose part before the dot is a
parameter.  These are overlooked, and no others are.
-/

namespace Reconcile

open Substitution Text

/-- A name can stand between the braces of a placeholder. -/
structure IsWritable (name : String) : Prop where
  stripped : IsStripped name
  closing : '\x7d' ∉ name.toList

/-! ### What is found of a site -/

namespace Site

/-- A placeholder that begins with an exclamation mark, which the search for references passes over. -/
def IsMarked : Site → Prop
  | .placeholder name => name.toList.head? = some '!'
  | _ => False

/-- What is found of a site among some mentions. -/
structure Found (mentions : List Reference) (site : Site) : Prop where
  mentioned : site.IsMarked ∨ site.reference ∈ mentions
  writable : ∀ name, site = .placeholder name → IsWritable name

theorem Found.mono {mentions more : List Reference} {site : Site} (found : site.Found mentions)
    (subset : mentions ⊆ more) :
  site.Found more
  := ⟨found.mentioned.imp_right fun listed => subset listed, found.writable⟩

end Site

namespace Expression

theorem found_of_mem_textSites {text : String} {bound : List (String × Expression)} {site : Site}
    (h : site ∈ textSites text bound) :
  site.Found (textMentions text bound)
  := by
  obtain ⟨name, hn, rfl⟩ := List.mem_map.mp h
  obtain ⟨hn, free⟩ := List.mem_filter.mp hn
  obtain ⟨hole, hm, -, rfl⟩ := mem_placeholders_segments.mp hn
  constructor
  · by_cases marked : (trim hole).head? = some '!'
    · left
      simpa [Site.IsMarked] using marked
    · right
      apply List.mem_map_of_mem
      exact List.mem_filter.mpr ⟨mem_placeholders.mpr ⟨hole, hm, marked, rfl⟩, free⟩
  · rintro _ ⟨⟩
    refine ⟨isStripped_ofList_trim hole, ?_⟩
    rw [String.toList_ofList]
    exact fun closing => notMem_of_hole hm (mem_of_mem_trim closing)

mutual

/-- The sites of an expression are found by the search for references, up to marks. -/
theorem found_of_mem_sites (expression : Expression) {site : Site} (h : site ∈ expression.sites) :
  site.Found expression.mentions
  := by
  cases expression with
  | null | bool | number | string | refAll | condition => simp [sites] at h
  | list items => exact found_of_mem_itemSites items h
  | object fields => exact found_of_mem_fieldSites fields h
  | ref name =>
    obtain rfl := List.mem_singleton.mp h
    exact ⟨.inr List.mem_cons_self, nofun⟩
  | getAtt logicalId attr =>
    obtain rfl := List.mem_singleton.mp h
    exact ⟨.inr List.mem_cons_self, nofun⟩
  | sub text bound =>
    obtain h | h := List.mem_append.mp h
    · exact (found_of_mem_fieldSites bound h).mono (List.subset_append_left _ _)
    · exact (found_of_mem_textSites h).mono (List.subset_append_right _ _)
  | ifNamed name holds otherwise =>
    obtain h | h := List.mem_append.mp h
    · exact (found_of_mem_sites holds h).mono (List.subset_append_left _ _)
    · exact (found_of_mem_sites otherwise h).mono (List.subset_append_right _ _)
  | ifValue test holds otherwise =>
    simp only [sites, List.mem_append] at h
    obtain h | h | h := h
    · exact (found_of_mem_sites test h).mono (by simp [mentions])
    · exact (found_of_mem_sites holds h).mono (by simp [mentions])
    · exact (found_of_mem_sites otherwise h).mono (by simp [mentions])
  | getAZs region => exact found_of_mem_sites region h
  | findInMap map top second =>
    simp only [sites, List.mem_append] at h
    obtain h | h | h := h
    · exact (found_of_mem_sites map h).mono (by simp [mentions])
    · exact (found_of_mem_sites top h).mono (by simp [mentions])
    · exact (found_of_mem_sites second h).mono (by simp [mentions])
  | unary function argument => exact found_of_mem_sites argument h
  | binary function first second =>
    obtain h | h := List.mem_append.mp h
    · exact (found_of_mem_sites first h).mono (List.subset_append_left _ _)
    · exact (found_of_mem_sites second h).mono (List.subset_append_right _ _)
  | junction connective operands => exact found_of_mem_itemSites operands h

theorem found_of_mem_itemSites (items : List Expression) {site : Site} (h : site ∈ itemSites items) :
  site.Found (itemMentions items)
  := by
  cases items with
  | nil => cases h
  | cons item rest =>
    obtain h | h := List.mem_append.mp h
    · exact (found_of_mem_sites item h).mono (List.subset_append_left _ _)
    · exact (found_of_mem_itemSites rest h).mono (List.subset_append_right _ _)

theorem found_of_mem_fieldSites (fields : List (String × Expression)) {site : Site} (h : site ∈ fieldSites fields) :
  site.Found (fieldMentions fields)
  := by
  match fields with
  | [] => cases h
  | (key, value) :: rest =>
    obtain h | h := List.mem_append.mp h
    · exact (found_of_mem_sites value h).mono (List.subset_append_left _ _)
    · exact (found_of_mem_fieldSites rest h).mono (List.subset_append_right _ _)

end

end Expression

namespace Template

variable {template : Template}

theorem hasMeaning_iff {name : String} :
  template.hasMeaning name ↔ template.IsKnown name
  := by
  simp [hasMeaning, IsKnown, or_assoc]

/-- A placeholder is a stray when neither it nor its part before the first dot means something. -/
theorem stray?_placeholder {name : String} {error : EvaluationError}
    (stray : template.stray? (.placeholder name) = some error) :
  error = .unknownSubVariable name ∧ ¬ template.hasMeaning name
    ∧ ¬ (splitOnce '.' name).any fun parts => template.isResource parts.1
  := by
  dsimp only [stray?] at stray
  split at stray
  · cases stray
  next meaningless =>
  split at stray
  · cases stray
  next unattributed =>
  exact ⟨(Option.some.inj stray).symm, meaningless, unattributed⟩

/-! ### What is overlooked -/

/-- The errors about names that the graph of a template is not refused for. -/
inductive Overlooks (template : Template) : EvaluationError → Prop where
  /-- An attribute of something that is no resource, but a parameter or a pseudo-parameter. -/
  | member {name : String} (stray : template.stray? (.member name) = some (.unknownReference name))
      (meant : isPseudoParameter name ∨ template.isParameter name) :
    Overlooks template (.unknownReference name)
  /-- A placeholder that begins with an exclamation mark after a blank. -/
  | marked {name : String} (stray : template.stray? (.placeholder name) = some (.unknownSubVariable name))
      (writable : IsWritable name) (mark : name.toList.head? = some '!') :
    Overlooks template (.unknownSubVariable name)
  /-- A placeholder with a parameter before its first dot. -/
  | dotted {name before after : String}
      (stray : template.stray? (.placeholder name) = some (.unknownSubVariable name))
      (writable : IsWritable name) (dot : splitOnce '.' name = some (before, after))
      (meant : template.isParameter before) :
    Overlooks template (.unknownSubVariable name)

theorem Overlooks.isUnknown {error : EvaluationError} (h : template.Overlooks error) :
  error.isUnknown
  := by
  cases h with
  | member | marked | dotted => rfl

/-- A name that means nothing is overlooked when all that is found of its site has a meaning. -/
theorem overlooks_of_stray {mentions : List Reference} (known : template.Known mentions) {site : Site}
    (found : site.Found mentions) {error : EvaluationError} (stray : template.stray? site = some error) :
  template.Overlooks error
  := by
  cases site with
  | value name =>
    have mentioned := found.mentioned.resolve_left id
    have meant : template.hasMeaning name := hasMeaning_iff.mpr (known _ mentioned)
    simp [stray?, meant] at stray
  | member name =>
    have mentioned := found.mentioned.resolve_left id
    dsimp only [stray?] at stray
    split at stray
    · cases stray
    next undeclared =>
    cases stray
    have stray : template.stray? (.member name) = some (.unknownReference name) := if_neg undeclared
    obtain pseudo | parameter | resource : template.IsKnown name := known _ mentioned
    · exact .member stray (.inl pseudo)
    · exact .member stray (.inr parameter)
    · exact absurd resource undeclared
  | placeholder name =>
    have writable := found.writable name rfl
    obtain ⟨rfl, meaningless, unattributed⟩ := stray?_placeholder stray
    obtain marked | mentioned := found.mentioned
    · exact .marked stray writable marked
    have meant := known _ mentioned
    cases dot : splitOnce '.' name with
    | none =>
      simp only [Site.reference, Reference.ofPlaceholder, dot, Reference.name] at meant
      exact absurd (hasMeaning_iff.mpr meant) meaningless
    | some parts =>
      obtain ⟨before, after⟩ := parts
      simp only [Site.reference, Reference.ofPlaceholder, dot, Reference.name] at meant
      obtain pseudo | parameter | resource := meant
      · exact absurd (hasMeaning_iff.mpr (.inl (isPseudoParameter_of_splitOnce dot pseudo))) meaningless
      · exact .dotted stray writable dot parameter
      · simp [dot, resource] at unattributed

/-- When the graph of a template is built, all names of its properties that mean nothing are overlooked. -/
theorem overlooks_of_mem_strays {graph : Graph} (built : template.graph = .ok graph) {id : String}
    {resource : Resource} (declared : template.resources.get? id = some resource) {error : EvaluationError}
    (h : error ∈ template.strays resource.desiredProperties) :
  template.Overlooks error
  := by
  obtain ⟨site, hs, stray⟩ := List.mem_filterMap.mp h
  exact overlooks_of_stray (known_mentions built declared) (Expression.found_of_mem_sites _ hs) stray

namespace SameNames

variable {other : Template}

theorem hasMeaning_eq (same : template.SameNames other) :
  template.hasMeaning = other.hasMeaning
  := by
  funext name
  simp only [hasMeaning, same.isParameter_eq, same.isResource_eq]

theorem stray?_eq (same : template.SameNames other) :
  template.stray? = other.stray?
  := by
  funext site
  cases site with
  | value name => simp only [stray?, same.hasMeaning_eq]
  | member logicalId => simp only [stray?, same.isResource_eq]
  | placeholder name => simp only [stray?, same.hasMeaning_eq, same.isResource_eq]

theorem overlooks (same : template.SameNames other) {error : EvaluationError} (h : template.Overlooks error) :
  other.Overlooks error
  := by
  cases h with
  | member stray meant =>
    rw [same.stray?_eq] at stray
    rw [same.isParameter_eq] at meant
    exact .member stray meant
  | marked stray writable mark =>
    rw [same.stray?_eq] at stray
    exact .marked stray writable mark
  | dotted stray writable dot meant =>
    rw [same.stray?_eq] at stray
    rw [same.isParameter_eq] at meant
    exact .dotted stray writable dot meant

end SameNames

/-! ### Expressions with an overlooked name -/

/-- An expression fails because of a name that means nothing, its only one, and refers to nothing but
parameters and pseudo-parameters. -/
structure Misses (template : Template) (error : EvaluationError) (expression : Expression) : Prop where
  fails : ∀ capabilities, template.evaluate capabilities expression = .error error
  strays : template.strays expression = [error]
  elsewhere : ∀ mention ∈ expression.mentions, isPseudoParameter mention.name ∨ template.isParameter mention.name

theorem evalPlaceholder_of_stray {capabilities : Capabilities} {name : String}
    (stray : template.stray? (.placeholder name) = some (.unknownSubVariable name)) :
  template.evalPlaceholder capabilities name = .failed (.unknownSubVariable name)
  := by
  obtain ⟨-, meaningless, unattributed⟩ := stray?_placeholder stray
  unfold evalPlaceholder
  rw [← hasMeaning, if_neg meaningless]
  split
  · next dot =>
    rw [dot] at unattributed
    exact if_neg unattributed
  · rfl

theorem misses_writing {name : String} (writable : IsWritable name)
    (stray : template.stray? (.placeholder name) = some (.unknownSubVariable name))
    (elsewhere : name.toList.head? ≠ some '!' → isPseudoParameter (Reference.ofPlaceholder name).name
      ∨ template.isParameter (Reference.ofPlaceholder name).name) :
  template.Misses (.unknownSubVariable name) (.sub (writing name) [])
  := by
  obtain ⟨stripped, closing⟩ := writable
  constructor
  · intro capabilities
    apply template.evaluate_eq_error.mpr
    simp only [eval, segments_writing stripped closing, evalSegments, evalVariable, Option.getD_none,
      evalPlaceholder_of_stray stray]
    rfl
  · simp [strays, Expression.sites, Expression.fieldSites, Expression.textSites,
      segments_writing stripped closing, Segment.placeholders, lookup, stray]
  · intro mention hm
    simp only [Expression.mentions, Expression.fieldMentions, Expression.textMentions,
      placeholders_writing stripped closing, lookup, List.nil_append] at hm
    split at hm
    · simp at hm
    · next unmarked =>
      obtain rfl : mention = Reference.ofPlaceholder name := by simpa using hm
      exact elsewhere unmarked

/-- Every overlooked name is missed by an expression, the same one for all templates with the same names. -/
theorem Overlooks.exists_misses {error : EvaluationError} (h : template.Overlooks error) :
  ∃ expression, ∀ other : Template, template.SameNames other → other.Misses error expression
  := by
  cases h with
  | @member name stray meant =>
    use .getAtt name "a"
    intro other same
    rw [same.stray?_eq] at stray
    rw [same.isParameter_eq] at meant
    constructor
    · intro capabilities
      apply other.evaluate_eq_error.mpr
      simp only [eval, evalGetAtt]
      rw [if_neg]
      intro declared
      simp [stray?, declared] at stray
    · simp [strays, Expression.sites, stray]
    · intro mention hm
      obtain rfl : mention = .member name := by simpa [Expression.mentions] using hm
      exact meant
  | @marked name stray writable mark =>
    use .sub (writing name) []
    intro other same
    rw [same.stray?_eq] at stray
    exact misses_writing writable stray (absurd mark)
  | @dotted name before after stray writable dot meant =>
    use .sub (writing name) []
    intro other same
    rw [same.stray?_eq] at stray
    rw [same.isParameter_eq] at meant
    apply misses_writing writable stray
    intro _
    simp only [Reference.ofPlaceholder, dot, Reference.name]
    exact .inr meant

/-! ### Foresight -/

/-- When a template is accepted, the evaluation of the properties of a resource never fails because of a name
that means nothing, unless a bundle of capabilities raises such an error itself for a condition. -/
def Foresees (template : Template) : Prop :=
  ∀ graph, template.acyclicGraph = .ok graph →
    ∀ id resource, template.resources.get? id = some resource →
      ∀ capabilities error, template.evaluate capabilities resource.desiredProperties = .error error →
        error.isUnknown → capabilities.Raises error

/-- A template is accepted, and a resource of it fails because of a name, when an expression that misses the
name is all that its resources have for properties. -/
theorem not_foresees_probed {id : String} {error : EvaluationError} {expression : Expression}
    (misses : (template.probed id expression).Misses error expression) (unknown : error.isUnknown) :
  ¬ (template.probed id expression).Foresees
  := by
  intro foresees
  have elsewhere : ∀ mention ∈ expression.mentions, isPseudoParameter mention.name
      ∨ (template.probed id expression).isParameter mention.name
      ∨ (template.probed id expression).isResource mention.name ∧ mention.name ≠ id :=
    fun mention hm => (misses.elsewhere mention hm).imp_right .inl
  obtain ⟨graph, built, edges⟩ := exists_graph_probed elsewhere
  have accepted := acyclicGraph_eq_ok.mpr ⟨built, Graph.cyclicNodes_eq_nil_of_star edges⟩
  have failed := misses.fails {}
  obtain ⟨values, name, offered, -⟩ :=
    foresees graph accepted id _ (get?_resources_probed id expression) {} error failed unknown
  cases offered

/-- Of the templates with some names, those whose properties have no other names without a meaning than the
admitted ones, all foresee those precisely when none of them is overlooked. -/
theorem forall_foresees_iff (template : Template) (admits : EvaluationError → Prop) :
  (∀ other, template.SameNames other →
      (∀ id resource, other.resources.get? id = some resource →
        ∀ error ∈ other.strays resource.desiredProperties, admits error) →
      other.Foresees)
    ↔ ∀ id, template.isResource id → ∀ error, admits error → ¬ template.Overlooks error
  := by
  constructor
  · intro foresees id hr error admitted overlooked
    obtain ⟨expression, misses⟩ := overlooked.exists_misses
    have same := sameNames_probed hr expression
    apply not_foresees_probed (misses _ same) overlooked.isUnknown
    apply foresees _ same
    intro other resource declared error' stray
    rw [probed, Table.get?_insert] at declared
    split at declared
    · cases declared
      rw [Resource.desiredProperties, Option.getD_some, (misses _ same).strays] at stray
      rwa [List.mem_singleton.mp stray]
    · rw [Table.get?_map] at declared
      obtain ⟨-, -, rfl⟩ := Option.map_eq_some_iff.mp declared
      cases stray
  · intro noticed other same admitted graph accepted id resource declared capabilities error failed unknown
    obtain stray | raised := mem_strays_of_evaluate unknown failed
    · have overlooked := overlooks_of_mem_strays (acyclicGraph_eq_ok.mp accepted).1 declared stray
      have hr : template.isResource id := by
        rw [same.isResource_eq, isResource, Table.contains_iff]
        exact (Table.exists_get?_iff _ _).mp ⟨resource, declared⟩
      exact absurd (same.symm.overlooks overlooked) (noticed id hr error (admitted id resource declared error stray))
    · exact raised

/-- A template with a placeholder that begins with an exclamation mark after a blank. -/
def marked : Template where
  resources := .ofList [("A", { type := "T", properties := some (.object [("Q", .sub "$\x7b !B\x7d" [])]) })]

/-- It is accepted, although the placeholder means nothing. -/
theorem not_foresees_marked :
  ¬ marked.Foresees
  := by
  intro foresees
  obtain ⟨values, name, offered, -⟩ := foresees (.ofNodes ["A"]) (by cbv) "A" _ rfl {} (.unknownSubVariable "!B")
    (by cbv) rfl
  cases offered

end Template

end Reconcile
