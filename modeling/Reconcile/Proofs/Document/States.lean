import Mathlib.Tactic.Common
import Reconcile.Proofs.Document.RoundTrip

/-!
# Templates and states read, written and read again

A template or a state that was read is written as a value that it is read from.  The fields of each
record are written in the order in which they are known.
-/

namespace Reconcile

theorem Table.map_id {α : Type} (table : Table α) :
  table.map id = table
  := by
  simp only [map, id_eq, List.map_id']

theorem Table.eq_empty_of_isEmpty {α : Type} {table : Table α} (h : table.isEmpty) :
  table = empty
  := by
  obtain ⟨entries, nodup⟩ := table
  obtain rfl := List.isEmpty_iff.mp h
  rfl

namespace Document

/-! ### Fields that are written -/

section

variable {α : Type} (name : String) (fields : List (String × Option Json))

@[simp]
theorem present_nil :
  present [] = []
  := rfl

@[simp]
theorem present_some (value : Json) :
  present ((name, some value) :: fields) = (name, value) :: present fields
  := rfl

@[simp]
theorem present_map (write : α → Json) (o : Option α) :
  present ((name, o.map write) :: fields) = optionalField name write o ++ present fields
  := by
  cases o with
  | none => rfl
  | some a => rfl

@[simp]
theorem present_unless (c : Prop) [Decidable c] (value : Json) :
  present ((name, if c then none else some value) :: fields)
    = (if c then [] else [(name, value)]) ++ present fields
  := by
  split
  · rfl
  · rfl

end

/-- A record is read again when its fields are. -/
theorem rereads_record {α : Type} {names : List String} {body : Record → Except String α}
    (fields : α → List (String × Option Json)) (nodup : names.Nodup) (named : ∀ a, (fields a).map (·.1) = names)
    (again : ∀ {source a}, ((fields a).map (·.1)).Nodup → source.Proper → body source = .ok a →
      body (.written (fields a)) = .ok a) :
  Rereads (fun document => record names document >>= body) fun a => .object (present (fields a))
  where
  again := by
    intro value a proper h
    obtain ⟨source, read, h⟩ := Except.bind_eq_ok.mp h
    have nodup : ((fields a).map (·.1)).Nodup := named a ▸ nodup
    have reread := record_present nodup
    rw [named] at reread
    exact Except.bind_eq_ok.mpr ⟨_, reread, again nodup (proper_record proper read) h⟩
  present _ _ _ := nofun

/-- A field is given, unless it has its default. -/
theorem given_unless {α β : Type} {c : Prop} [Decidable c] {a default : α} (h : c → a = default) (b : β) :
  (if c then none else some b) = some b ∨ (if c then none else some b) = none ∧ a = default
  := by
  split
  · next holds => exact .inr ⟨rfl, h holds⟩
  · exact .inl rfl

theorem rereads_values :
  Rereads (listOf toJson) .list
  := by
  have each := rereads_listOf rereads_toJson
  simp only [List.map_id] at each
  exact each

theorem rereads_table :
  Rereads (tableOf toJson) .ofTable
  := by
  have each := rereads_tableOf rereads_toJson
  simp only [Table.map_id] at each
  exact each

/-! ### Parameters -/

/-- The fields of a parameter. -/
def parameterFields (p : Parameter) : List (String × Option Json) := [
  ("Type", some (.string p.type.name)),
  ("Default", p.default.map id),
  ("AllowedValues", p.allowedValues.map .list),
  ("AllowedPattern", p.allowedPattern.map .string),
  ("MinLength", p.minLength.map .nat),
  ("MaxLength", p.maxLength.map .nat),
  ("MinValue", p.minValue.map Extended.toJson),
  ("MaxValue", p.maxValue.map Extended.toJson),
  ("NoEcho", p.noEcho.map id),
  ("Description", p.description.map .string),
  ("ConstraintDescription", p.constraintDescription.map .string)]

theorem toJson_parameter (p : Parameter) :
  p.toJson = .object (present (parameterFields p))
  := by
  simp only [Parameter.toJson, parameterFields, present_some, present_map, present_nil,
    List.cons_append, List.nil_append, List.append_assoc, List.append_nil]

theorem ParameterType.ofName_name_ofName (s : String) :
  ParameterType.ofName (ParameterType.ofName s).name = ParameterType.ofName s
  := by
  cases h : ParameterType.ofName s with
  | string | number | numberList | commaDelimitedList => rfl
  | other t =>
    have same : s = t := by
      unfold ParameterType.ofName at h
      split at h
      all_goals cases h
      rfl
    rw [ParameterType.name, ← same, h, same]

theorem rereads_parameter :
  Rereads parameter Parameter.toJson
  := by
  rw [funext toJson_parameter]
  refine rereads_record parameterFields (by decide) (fun p => rfl) ?_
  intro source p nodup proper h
  obtain ⟨type, readType, h⟩ := Except.bind_eq_ok.mp h
  obtain ⟨default, readDefault, h⟩ := Except.bind_eq_ok.mp h
  obtain ⟨allowedValues, readValues, h⟩ := Except.bind_eq_ok.mp h
  obtain ⟨allowedPattern, readPattern, h⟩ := Except.bind_eq_ok.mp h
  obtain ⟨minLength, readMinLength, h⟩ := Except.bind_eq_ok.mp h
  obtain ⟨maxLength, readMaxLength, h⟩ := Except.bind_eq_ok.mp h
  obtain ⟨minValue, readMinValue, h⟩ := Except.bind_eq_ok.mp h
  obtain ⟨maxValue, readMaxValue, h⟩ := Except.bind_eq_ok.mp h
  obtain ⟨noEcho, readNoEcho, h⟩ := Except.bind_eq_ok.mp h
  obtain ⟨description, readDescription, h⟩ := Except.bind_eq_ok.mp h
  obtain ⟨constraintDescription, readConstraint, ⟨⟩⟩ := Except.bind_eq_ok.mp h
  refine Except.bind_eq_ok.mpr ⟨_, Record.required_written nodup rfl rfl, ?_⟩
  refine Except.bind_eq_ok.mpr ⟨_, Record.optional_again rereads_toJson proper nodup readDefault rfl, ?_⟩
  refine Except.bind_eq_ok.mpr ⟨_, Record.optional_again rereads_values proper nodup readValues rfl, ?_⟩
  refine Except.bind_eq_ok.mpr ⟨_, Record.optional_again rereads_string proper nodup readPattern rfl, ?_⟩
  refine Except.bind_eq_ok.mpr ⟨_, Record.optional_again rereads_count proper nodup readMinLength rfl, ?_⟩
  refine Except.bind_eq_ok.mpr ⟨_, Record.optional_again rereads_count proper nodup readMaxLength rfl, ?_⟩
  refine Except.bind_eq_ok.mpr ⟨_, Record.optional_again rereads_real proper nodup readMinValue rfl, ?_⟩
  refine Except.bind_eq_ok.mpr ⟨_, Record.optional_again rereads_real proper nodup readMaxValue rfl, ?_⟩
  refine Except.bind_eq_ok.mpr ⟨_, Record.optional_again rereads_toJson proper nodup readNoEcho rfl, ?_⟩
  refine Except.bind_eq_ok.mpr ⟨_, Record.optional_again rereads_string proper nodup readDescription rfl, ?_⟩
  refine Except.bind_eq_ok.mpr ⟨_, Record.optional_again rereads_string proper nodup readConstraint rfl, ?_⟩
  rw [ParameterType.ofName_name_ofName]
  rfl

/-! ### Resources -/

theorem rereads_oneOrMany :
  Rereads oneOrMany .strings
  where
  again := by
    intro value texts _ h
    simp only [oneOrMany, toJson_ofJson _ (Json.Distinct.strings texts)]
    show (texts.map Json.string).mapM _ = Except.ok texts
    clear h
    induction texts with
    | nil => rfl
    | cons text rest ih =>
      rw [List.map_cons, List.mapM_cons, ih]
      rfl
  present _ _ _ := nofun

theorem rereads_deletionPolicy :
  Rereads deletionPolicy fun policy => .string policy.name
  where
  again := by
    intro value policy _ _
    cases policy with
    | delete | retain | snapshot => rfl
  present _ _ _ := nofun

/-- The fields of a resource. -/
def resourceFields (r : Resource) : List (String × Option Json) := [
  ("Type", some (.string r.type)),
  ("Properties", r.properties.map Expression.toJson),
  ("DependsOn", if r.dependsOn.isEmpty then none else some (.strings r.dependsOn)),
  ("Condition", r.condition.map .string),
  ("DeletionPolicy", if r.deletionPolicy = .delete then none else some (.string r.deletionPolicy.name)),
  ("UpdateReplacePolicy", r.updateReplacePolicy.map .string),
  ("Metadata", r.metadata.map id)]

theorem toJson_resource (r : Resource) :
  r.toJson = .object (present (resourceFields r))
  := by
  simp only [Resource.toJson, resourceFields, present_some, present_map, present_unless, present_nil,
    List.cons_append, List.nil_append, List.append_assoc, List.append_nil]

theorem rereads_resource :
  Rereads resource Resource.toJson
  := by
  rw [funext toJson_resource]
  refine rereads_record resourceFields (by decide) (fun r => rfl) ?_
  intro source r nodup proper h
  obtain ⟨type, readType, h⟩ := Except.bind_eq_ok.mp h
  obtain ⟨properties, readProperties, h⟩ := Except.bind_eq_ok.mp h
  obtain ⟨dependsOn, readDependsOn, h⟩ := Except.bind_eq_ok.mp h
  obtain ⟨condition, readCondition, h⟩ := Except.bind_eq_ok.mp h
  obtain ⟨policy, readPolicy, h⟩ := Except.bind_eq_ok.mp h
  obtain ⟨updateReplacePolicy, readReplace, h⟩ := Except.bind_eq_ok.mp h
  obtain ⟨metadata, readMetadata, ⟨⟩⟩ := Except.bind_eq_ok.mp h
  refine Except.bind_eq_ok.mpr ⟨_, Record.required_again rereads_string proper nodup readType rfl, ?_⟩
  refine Except.bind_eq_ok.mpr ⟨_, Record.optional_again rereads_expression proper nodup readProperties rfl, ?_⟩
  refine Except.bind_eq_ok.mpr ⟨_, Record.withDefault_again rereads_oneOrMany proper nodup readDependsOn rfl rfl
    (given_unless List.isEmpty_iff.mp _), ?_⟩
  refine Except.bind_eq_ok.mpr ⟨_, Record.optional_again rereads_string proper nodup readCondition rfl, ?_⟩
  refine Except.bind_eq_ok.mpr ⟨_, Record.withDefault_again rereads_deletionPolicy proper nodup readPolicy rfl rfl
    (given_unless id _), ?_⟩
  refine Except.bind_eq_ok.mpr ⟨_, Record.optional_again rereads_string proper nodup readReplace rfl, ?_⟩
  refine Except.bind_eq_ok.mpr ⟨_, Record.optional_again rereads_toJson proper nodup readMetadata rfl, ?_⟩
  rfl

/-! ### Rules -/

/-- The fields of an assertion. -/
def assertionFields (a : Assertion) : List (String × Option Json) := [
  ("Assert", some a.assert.toJson),
  ("AssertDescription", a.description.map .string)]

theorem toJson_assertion (a : Assertion) :
  a.toJson = .object (present (assertionFields a))
  := by
  simp only [Assertion.toJson, assertionFields, present_some, present_map, present_nil, List.cons_append,
    List.nil_append, List.append_nil]

theorem rereads_assertion :
  Rereads assertion Assertion.toJson
  := by
  rw [funext toJson_assertion]
  refine rereads_record assertionFields (by decide) (fun a => rfl) ?_
  intro source a nodup proper h
  obtain ⟨assert, readAssert, h⟩ := Except.bind_eq_ok.mp h
  obtain ⟨description, readDescription, ⟨⟩⟩ := Except.bind_eq_ok.mp h
  refine Except.bind_eq_ok.mpr ⟨_, Record.required_again rereads_expression proper nodup readAssert rfl, ?_⟩
  refine Except.bind_eq_ok.mpr ⟨_, Record.optional_again rereads_string proper nodup readDescription rfl, ?_⟩
  rfl

/-- The fields of a rule. -/
def ruleFields (r : Rule) : List (String × Option Json) := [
  ("RuleCondition", r.condition.map Expression.toJson),
  ("Assertions", some (.list (r.assertions.map Assertion.toJson)))]

theorem toJson_rule (r : Rule) :
  r.toJson = .object (present (ruleFields r))
  := by
  simp only [Rule.toJson, ruleFields, present_some, present_map, present_nil]

theorem rereads_rule :
  Rereads rule Rule.toJson
  := by
  rw [funext toJson_rule]
  refine rereads_record ruleFields (by decide) (fun r => rfl) ?_
  intro source r nodup proper h
  obtain ⟨condition, readCondition, h⟩ := Except.bind_eq_ok.mp h
  obtain ⟨assertions, readAssertions, ⟨⟩⟩ := Except.bind_eq_ok.mp h
  refine Except.bind_eq_ok.mpr ⟨_, Record.optional_again rereads_expression proper nodup readCondition rfl, ?_⟩
  refine Except.bind_eq_ok.mpr ⟨_, Record.withDefault_again (rereads_listOf rereads_assertion) proper nodup
    readAssertions rfl rfl (.inl rfl), ?_⟩
  rfl

/-! ### Outputs -/

/-- The fields of the export settings of an output. -/
def exportFields (name : Expression) : List (String × Option Json) := [("Name", some name.toJson)]

theorem rereads_exportName :
  Rereads exportName fun name => .object [("Name", name.toJson)]
  := by
  refine rereads_record exportFields (by decide) (fun name => rfl) ?_
  intro source name nodup proper h
  exact Record.required_again rereads_expression proper nodup h rfl

/-- The fields of an output. -/
def outputFields (o : Output) : List (String × Option Json) := [
  ("Value", some o.value.toJson),
  ("Condition", o.condition.map .string),
  ("Description", o.description.map .string),
  ("Export", o.exportName.map fun name => .object [("Name", name.toJson)])]

theorem toJson_output (o : Output) :
  o.toJson = .object (present (outputFields o))
  := by
  simp only [Output.toJson, outputFields, present_some, present_map, present_nil, List.cons_append,
    List.nil_append, List.append_assoc, List.append_nil]

theorem rereads_output :
  Rereads output Output.toJson
  := by
  rw [funext toJson_output]
  refine rereads_record outputFields (by decide) (fun o => rfl) ?_
  intro source o nodup proper h
  obtain ⟨value, readValue, h⟩ := Except.bind_eq_ok.mp h
  obtain ⟨condition, readCondition, h⟩ := Except.bind_eq_ok.mp h
  obtain ⟨description, readDescription, h⟩ := Except.bind_eq_ok.mp h
  obtain ⟨name, readName, ⟨⟩⟩ := Except.bind_eq_ok.mp h
  refine Except.bind_eq_ok.mpr ⟨_, Record.required_again rereads_expression proper nodup readValue rfl, ?_⟩
  refine Except.bind_eq_ok.mpr ⟨_, Record.optional_again rereads_string proper nodup readCondition rfl, ?_⟩
  refine Except.bind_eq_ok.mpr ⟨_, Record.optional_again rereads_string proper nodup readDescription rfl, ?_⟩
  refine Except.bind_eq_ok.mpr ⟨_, Record.optional_again rereads_exportName proper nodup readName rfl, ?_⟩
  rfl

/-! ### Templates -/

/-- The fields of a template. -/
def templateFields (t : Template) : List (String × Option Json) := [
  ("AWSTemplateFormatVersion", t.formatVersion.map .string),
  ("Description", t.description.map .string),
  ("Parameters", if t.parameters.isEmpty then none else some (.ofTable (t.parameters.map Parameter.toJson))),
  ("Conditions", if t.conditions.isEmpty then none else some (.ofTable (t.conditions.map Expression.toJson))),
  ("Mappings", if t.mappings.isEmpty then none
    else some (.ofTable (t.mappings.map fun mapping => .ofTable (mapping.map .ofTable)))),
  ("Rules", if t.rules.isEmpty then none else some (.ofTable (t.rules.map Rule.toJson))),
  ("Resources", some (.ofTable (t.resources.map Resource.toJson))),
  ("Outputs", if t.outputs.isEmpty then none else some (.ofTable (t.outputs.map Output.toJson)))]

theorem toJson_template (t : Template) :
  t.toJson = .object (present (templateFields t))
  := by
  simp only [Template.toJson, sectionField, templateFields, present_some, present_map, present_unless, present_nil,
    List.cons_append, List.nil_append, List.append_assoc, List.append_nil]

theorem rereads_template :
  Rereads template Template.toJson
  := by
  rw [funext toJson_template]
  refine rereads_record templateFields (by decide) (fun t => rfl) ?_
  intro source t nodup proper h
  obtain ⟨formatVersion, readVersion, h⟩ := Except.bind_eq_ok.mp h
  obtain ⟨description, readDescription, h⟩ := Except.bind_eq_ok.mp h
  obtain ⟨parameters, readParameters, h⟩ := Except.bind_eq_ok.mp h
  obtain ⟨conditions, readConditions, h⟩ := Except.bind_eq_ok.mp h
  obtain ⟨mappings, readMappings, h⟩ := Except.bind_eq_ok.mp h
  obtain ⟨rules, readRules, h⟩ := Except.bind_eq_ok.mp h
  obtain ⟨resources, readResources, h⟩ := Except.bind_eq_ok.mp h
  obtain ⟨outputs, readOutputs, ⟨⟩⟩ := Except.bind_eq_ok.mp h
  refine Except.bind_eq_ok.mpr ⟨_, Record.optional_again rereads_string proper nodup readVersion rfl, ?_⟩
  refine Except.bind_eq_ok.mpr ⟨_, Record.optional_again rereads_string proper nodup readDescription rfl, ?_⟩
  refine Except.bind_eq_ok.mpr ⟨_, Record.withDefault_again (rereads_tableOf rereads_parameter) proper nodup
    readParameters rfl rfl (given_unless Table.eq_empty_of_isEmpty _), ?_⟩
  refine Except.bind_eq_ok.mpr ⟨_, Record.withDefault_again (rereads_tableOf rereads_expression) proper nodup
    readConditions rfl rfl (given_unless Table.eq_empty_of_isEmpty _), ?_⟩
  refine Except.bind_eq_ok.mpr ⟨_, Record.withDefault_again (rereads_tableOf (rereads_tableOf rereads_table)) proper
    nodup readMappings rfl rfl (given_unless Table.eq_empty_of_isEmpty _), ?_⟩
  refine Except.bind_eq_ok.mpr ⟨_, Record.withDefault_again (rereads_tableOf rereads_rule) proper nodup
    readRules rfl rfl (given_unless Table.eq_empty_of_isEmpty _), ?_⟩
  refine Except.bind_eq_ok.mpr ⟨_, Record.required_again (rereads_tableOf rereads_resource) proper nodup
    readResources rfl, ?_⟩
  refine Except.bind_eq_ok.mpr ⟨_, Record.withDefault_again (rereads_tableOf rereads_output) proper nodup
    readOutputs rfl rfl (given_unless Table.eq_empty_of_isEmpty _), ?_⟩
  rfl

/-! ### States -/

/-- The fields of a physical resource. -/
def physicalFields (r : PhysicalResource) : List (String × Option Json) := [
  ("type", some (.string r.type)),
  ("physicalId", r.physicalId.map .string),
  ("inputProperties", some r.inputProperties),
  ("attributes", some (.ofTable r.attributes)),
  ("propertiesHash", r.propertiesHash.map .string)]

theorem toJson_physicalResource (r : PhysicalResource) :
  r.toJson = .object (present (physicalFields r))
  := by
  simp only [PhysicalResource.toJson, physicalFields, present_some, present_map, present_nil, List.cons_append,
    List.nil_append, List.append_assoc, List.append_nil]

theorem rereads_physicalResource :
  Rereads physicalResource PhysicalResource.toJson
  := by
  rw [funext toJson_physicalResource]
  refine rereads_record physicalFields (by decide) (fun r => rfl) ?_
  intro source r nodup proper h
  obtain ⟨type, readType, h⟩ := Except.bind_eq_ok.mp h
  obtain ⟨physicalId, readId, h⟩ := Except.bind_eq_ok.mp h
  obtain ⟨properties, readProperties, h⟩ := Except.bind_eq_ok.mp h
  obtain ⟨attributes, readAttributes, h⟩ := Except.bind_eq_ok.mp h
  obtain ⟨propertiesHash, readHash, ⟨⟩⟩ := Except.bind_eq_ok.mp h
  refine Except.bind_eq_ok.mpr ⟨_, Record.required_again rereads_string proper nodup readType rfl, ?_⟩
  refine Except.bind_eq_ok.mpr ⟨_, Record.optional_again rereads_string proper nodup readId rfl, ?_⟩
  refine Except.bind_eq_ok.mpr ⟨_, Record.withDefault_again rereads_toJson proper nodup readProperties rfl rfl
    (.inl rfl), ?_⟩
  refine Except.bind_eq_ok.mpr ⟨_, Record.withDefault_again rereads_table proper nodup readAttributes rfl rfl
    (.inl rfl), ?_⟩
  refine Except.bind_eq_ok.mpr ⟨_, Record.optional_again rereads_string proper nodup readHash rfl, ?_⟩
  rfl

/-- The fields of a state. -/
def stateFields (s : StackState) : List (String × Option Json) := [
  ("template", some s.template.toJson),
  ("resources", some (.ofTable (s.resources.map PhysicalResource.toJson))),
  ("outputs", some (.ofTable s.outputs))]

theorem rereads_stackState :
  Rereads stackState StackState.toJson
  := by
  refine rereads_record stateFields (by decide) (fun s => rfl) ?_
  intro source s nodup proper h
  obtain ⟨template, readTemplate, h⟩ := Except.bind_eq_ok.mp h
  obtain ⟨resources, readResources, h⟩ := Except.bind_eq_ok.mp h
  obtain ⟨outputs, readOutputs, ⟨⟩⟩ := Except.bind_eq_ok.mp h
  refine Except.bind_eq_ok.mpr ⟨_, Record.required_again rereads_template proper nodup readTemplate rfl, ?_⟩
  refine Except.bind_eq_ok.mpr ⟨_, Record.withDefault_again (rereads_tableOf rereads_physicalResource) proper nodup
    readResources rfl rfl (.inl rfl), ?_⟩
  refine Except.bind_eq_ok.mpr ⟨_, Record.withDefault_again rereads_table proper nodup readOutputs rfl rfl
    (.inl rfl), ?_⟩
  rfl

end Document

/-! ### Round trips -/

/-- What is written is read as the same, and that is written as the same. -/
def Restored {α : Type} (read : Json → Except String α) (write : α → Json) (a : α) : Prop :=
  ∃ again, read (write a) = .ok again ∧ again = a ∧ write again = write a

/-- Every state and every template that is read from a value is restored from what it is written as. -/
theorem restored_of_ofJson {value : Json} (proper : value.Proper) :
  (∀ state, StackState.ofJson value = .ok state → Restored StackState.ofJson StackState.toJson state)
    ∧ ∀ template, Template.ofJson value = .ok template → Restored Template.ofJson Template.toJson template
  := by
  constructor
  · intro state h
    exact ⟨state, Document.rereads_stackState.again proper h, rfl, rfl⟩
  · intro template h
    exact ⟨template, Document.rereads_template.again proper h, rfl, rfl⟩

/-- A template that is not in the form in which templates are written: its description is null, a
bound is an integer, a policy is a map, another one the default, and a dependency stands alone. -/
def drafted : Json := .object [
  ("Description", .null),
  ("Parameters", .object [("Size", .object [("Type", .string "Size"), ("MinValue", .int 2)])]),
  ("Resources", .object [
    ("Base", .object [("Type", .string "T"), ("DeletionPolicy", .object [("Retain", .null)])]),
    ("Top", .object [("Type", .string "T"), ("DependsOn", .string "Base"), ("DeletionPolicy", .string "Delete")])])]

/-- A state without outputs, with a physical resource that is a list of its fields. -/
def noted : Json := .object [
  ("template", drafted),
  ("resources", .object [("Base", .list [.string "T", .string "base-1", .int 1])])]

/-- The state and its template are restored, from other values than those they were read from. -/
theorem restored_noted :
  noted.Proper ∧ drafted.Proper
    ∧ (∃ state, StackState.ofJson noted = .ok state ∧ Restored StackState.ofJson StackState.toJson state
      ∧ state.toJson.field? "outputs" = some (.object []))
    ∧ ∃ template, Template.ofJson drafted = .ok template ∧ Restored Template.ofJson Template.toJson template
      ∧ template.toJson = .object [
        ("Parameters", .object [("Size", .object [("Type", .string "Size"),
          ("MinValue", .number (.real ⟨false, Nat.pow 2 52, -51⟩))])]),
        ("Resources", .object [
          ("Base", .object [("Type", .string "T"), ("DeletionPolicy", .string "Retain")]),
          ("Top", .object [("Type", .string "T"), ("DependsOn", .list [.string "Base"])])])]
  := by
  have drafted_proper : drafted.Proper := by simp [drafted]
  have noted_proper : noted.Proper := by simp [noted, drafted_proper]
  refine ⟨noted_proper, drafted_proper, ?_, ?_⟩
  · exact ⟨_, rfl, (restored_of_ofJson noted_proper).1 _ rfl, rfl⟩
  · exact ⟨_, rfl, (restored_of_ofJson drafted_proper).2 _ rfl, rfl⟩

end Reconcile
