import Mathlib.Tactic.Common
import Reconcile.Proofs.Evaluation.Reads

/-!
# Stray names

An evaluation meets names at the sites of an expression: references, attributes and the
placeholders that no variable binds.  A name that means nothing at its site is a stray, and the
evaluation fails with an error about it.  No other errors about names without a meaning come up,
unless a bundle of capabilities raises them itself for a condition.  Nor does an error about values
that are not available yet, which an evaluation reports as unresolved instead.
-/

namespace Reconcile

/-- Whether an error is about a name that means nothing. -/
def EvaluationError.isUnknown : EvaluationError → Bool
  | .unknownReference _ | .unknownSubVariable _ => true
  | _ => false

/-- Whether an error does not come from the values that are computed with: it is about a name that means nothing or a
value that is not available. -/
def EvaluationError.isForeign : EvaluationError → Bool
  | .unknownReference _ | .unknownSubVariable _ | .unresolvedAccess _ => true
  | _ => false

theorem EvaluationError.isForeign_of_isUnknown {error : EvaluationError} (unknown : error.isUnknown) :
  error.isForeign
  := by
  cases error with
  | unknownReference | unknownSubVariable => rfl
  | _ => cases unknown

/-- A bundle of capabilities fails with an error when it is asked for a condition. -/
def Capabilities.Raises (capabilities : Capabilities) (error : EvaluationError) : Prop :=
  ∃ values name, capabilities.conditions = some values ∧ values name = .error error

/-! ### Sites -/

/-- A place of an expression at which a name stands. -/
inductive Site where
  /-- A reference to the value of a name. -/
  | value (name : String)
  /-- An attribute of what has a name. -/
  | member (logicalId : String)
  /-- A placeholder of a text. -/
  | placeholder (name : String)
  deriving DecidableEq, Repr

/-- The reference that is made at a site. -/
def Site.reference : Site → Reference
  | .value name => .value name
  | .member logicalId => .member logicalId
  | .placeholder name => .ofPlaceholder name

namespace Expression

/-- The placeholders of a text that are not bound. -/
def textSites (text : String) (bound : List (String × Expression)) : List Site :=
  ((Segment.placeholders (Substitution.segments text)).filter fun name =>
    (lookup name bound).isNone).map .placeholder

mutual

/-- The sites of an expression at which an evaluation can look up a name. -/
def sites : Expression → List Site
  | .null | .bool _ | .number _ | .string _ | .refAll _ | .condition _ => []
  | .list items => itemSites items
  | .object fields => fieldSites fields
  | .ref name => [.value name]
  | .getAtt logicalId _ => [.member logicalId]
  | .sub text bound => fieldSites bound ++ textSites text bound
  | .ifNamed _ holds otherwise => sites holds ++ sites otherwise
  | .ifValue test holds otherwise => sites test ++ (sites holds ++ sites otherwise)
  | .getAZs region => sites region
  | .findInMap map top second => sites map ++ (sites top ++ sites second)
  | .unary _ argument => sites argument
  | .binary _ first second => sites first ++ sites second
  | .junction _ operands => itemSites operands

/-- The sites of some expressions. -/
def itemSites : List Expression → List Site
  | [] => []
  | item :: rest => sites item ++ itemSites rest

/-- The sites of some fields. -/
def fieldSites : List (String × Expression) → List Site
  | [] => []
  | (_, value) :: rest => sites value ++ fieldSites rest

end

end Expression

namespace Template

variable (template : Template)

/-- Whether a name stands for a pseudo-parameter, a parameter or a resource. -/
def hasMeaning (name : String) : Bool :=
  isPseudoParameter name || template.isParameter name || template.isResource name

/-- The error about the name at a site, if it means nothing there. -/
def stray? : Site → Option EvaluationError
  | .value name => if template.hasMeaning name then none else some (.unknownReference name)
  | .member logicalId => if template.isResource logicalId then none else some (.unknownReference logicalId)
  | .placeholder name =>
    if template.hasMeaning name then none
    else if (Text.splitOnce '.' name).any fun parts => template.isResource parts.1 then none
    else some (.unknownSubVariable name)

/-- The errors about the names of an expression that mean nothing. -/
def strays (expression : Expression) : List EvaluationError := expression.sites.filterMap template.stray?

end Template

/-! ### Computations that do not look up names -/

/-- An outcome is no error but one that comes from values. -/
def Plain {α : Type} (outcome : Except EvaluationError α) : Prop :=
  ∀ error, outcome = .error error → error.isForeign = false

namespace Plain

variable {α β : Type}

theorem ok (a : α) :
  Plain (.ok a)
  := nofun

theorem error {error : EvaluationError} (h : error.isForeign = false) :
  Plain (.error error : Except EvaluationError α)
  := by
  rintro _ ⟨⟩
  exact h

theorem bind {first : Except EvaluationError α} {next : α → Except EvaluationError β} (hf : Plain first)
    (hn : ∀ a, Plain (next a)) :
  Plain (first >>= next)
  := by
  cases first with
  | error error =>
    rintro _ ⟨⟩
    exact hf error rfl
  | ok a => exact hn a

theorem map {outcome : Except EvaluationError α} (h : Plain outcome) (f : α → β) :
  Plain (outcome.map f)
  := by
  cases outcome with
  | error error =>
    rintro _ ⟨⟩
    exact h error rfl
  | ok a => exact ok (f a)

theorem mapM {f : α → Except EvaluationError β} (h : ∀ a, Plain (f a)) (items : List α) :
  Plain (items.mapM f)
  := by
  induction items with
  | nil => exact ok []
  | cons item rest ih =>
    rw [List.mapM_cons]
    apply bind (h item)
    intro b
    apply bind ih
    intro bs
    exact ok (b :: bs)

theorem scalarText (function : String) (value : Json) :
  Plain (value.scalarText function)
  := by
  cases value with
  | string | number | bool => exact ok _
  | null | list | object => exact error rfl

theorem expectString (function : String) (value : Json) :
  Plain (value.expectString function)
  := by
  cases value with
  | string => exact ok _
  | null | bool | number | list | object => exact error rfl

theorem expectBool (function : String) (value : Json) :
  Plain (value.expectBool function)
  := by
  cases value with
  | bool => exact ok _
  | null | string | number | list | object => exact error rfl

theorem expectList (function : String) (value : Json) :
  Plain (value.expectList function)
  := by
  cases value with
  | list => exact ok _
  | null | string | number | bool | object => exact error rfl

theorem expectStrings (function : String) (value : Json) :
  Plain (value.expectStrings function)
  := by
  apply bind (expectList function value)
  intro items
  apply mapM
  intro item
  cases item with
  | string => exact ok _
  | null | number | bool | list | object => exact error rfl

theorem expectIndex (function : String) (value : Json) :
  Plain (value.expectIndex function)
  := by
  unfold Json.expectIndex
  dsimp only
  split
  · split
    · exact ok _
    · exact error rfl
  · exact error rfl

theorem unary_check (function : Unary) :
  Plain function.check
  := by
  unfold Unary.check
  split
  · exact error rfl
  · exact ok ()

theorem unary_apply (function : Unary) (argument : Json) :
  Plain (function.apply argument)
  := by
  cases function with
  | join delimiter =>
    apply bind (expectList _ argument)
    intro items
    apply bind (mapM (scalarText _) items)
    intro parts
    exact ok _
  | split delimiter => exact bind (expectString _ argument) fun text => ok _
  | base64 => exact bind (expectString _ argument) fun text => ok _
  | not => exact bind (expectBool _ argument) fun b => ok _
  | length => exact bind (expectList _ argument) fun items => ok _
  | toJsonString => exact ok _

theorem binary_apply (function : Binary) (first second : Json) :
  Plain (function.apply first second)
  := by
  cases function with
  | select =>
    apply bind (expectIndex _ first)
    intro index
    apply bind (expectList _ second)
    intro items
    split
    · exact ok _
    · exact error rfl
  | equals => exact ok _
  | contains => exact bind (expectStrings _ first) fun members => bind (expectString _ second) fun value => ok _
  | eachMemberEquals =>
    exact bind (expectStrings _ first) fun members => bind (expectString _ second) fun value => ok _
  | eachMemberIn =>
    exact bind (expectStrings _ first) fun members => bind (expectStrings _ second) fun allowed => ok _

theorem junction_check (connective : Junction) (count : Nat) :
  Plain (connective.check count)
  := by
  unfold Junction.check
  split
  · exact ok ()
  · exact error rfl

theorem regionName (region : Json) :
  Plain (Template.regionName region)
  := by
  unfold Template.regionName
  split
  · exact ok ""
  · exact expectString _ _

theorem findInMap (template : Template) (map top second : Json) :
  Plain (template.findInMap map top second)
  := by
  apply bind (scalarText _ map)
  intro map
  apply bind (scalarText _ top)
  intro top
  apply bind (scalarText _ second)
  intro second
  split
  · exact ok _
  · exact error rfl

end Plain

/-! ### Computations that look up names -/

/-- Of the errors that do not come from values a computation fails with one of these only. -/
def Blames {α : Type} (among : EvaluationError → Prop) (evaluation : Evaluation α) : Prop :=
  ∀ error, evaluation = .failed error → error.isForeign → among error

namespace Blames

variable {α β : Type} {among : EvaluationError → Prop}

theorem failed {error : EvaluationError} (h : among error) :
  Blames among (.failed error : Evaluation α)
  := by
  rintro _ ⟨⟩ _
  exact h

theorem lift {outcome : Except EvaluationError α} (h : Plain outcome) :
  Blames among (.lift outcome)
  := by
  intro error failed foreign
  cases outcome with
  | error error' =>
    cases failed
    rw [h error rfl] at foreign
    cases foreign
  | ok a => cases failed

theorem result (a : α) :
  Blames among (.result a)
  := nofun

theorem andThen {first : Evaluation α} {next : α → Evaluation β} (hf : Blames among first)
    (hn : ∀ a, Blames among (next a)) :
  Blames among (first.andThen next)
  := by
  intro error failed foreign
  obtain failed | ⟨a, _, _, failed⟩ := Evaluation.andThen_eq_failed.mp failed
  · exact hf error failed foreign
  · exact hn a error failed foreign

theorem writtenText (slot : Slot) :
  Blames among slot.writtenText
  := by
  cases slot with
  | ready value => exact lift ((Plain.scalarText _ value).map _)
  | noValue => exact result _
  | pending => exact result _

theorem truth (function : String) (slot : Slot) :
  Blames among (slot.truth function)
  := by
  unfold Slot.truth
  cases slot.argument? with
  | none => exact result _
  | some value => exact lift ((Plain.expectBool _ value).map _)

theorem ofArgument (slot : Slot) {apply : Json → Except EvaluationError Json} (h : ∀ value, Plain (apply value)) :
  Blames among (slot.ofArgument apply)
  := by
  unfold Slot.ofArgument
  cases slot.argument? with
  | none => exact result _
  | some value => exact lift ((h value).map _)

end Blames

/-- Nothing but a condition makes a bundle of capabilities raise an error that does not come from values. -/
theorem Capabilities.raises_of_find_eq_error {capabilities : Capabilities} {dependency : Dependency}
    {error : EvaluationError} (h : capabilities.find dependency = .error error) (foreign : error.isForeign) :
  capabilities.Raises error
  := by
  unfold find at h
  split at h
  · split at h
    · cases h
    · split at h
      · cases h
      · cases h
        cases foreign
  · split at h
    · cases h
    · split at h
      · cases h
      · cases h
        cases foreign
  · next name =>
    split at h
    · cases h
    · next values offered =>
      refine ⟨values, name, offered, ?_⟩
      match hv : values name with
      | .ok holds =>
        rw [hv] at h
        cases h
      | .error error' =>
        rw [hv] at h
        cases h
        rfl
  · split at h
    · cases h
    · split at h
      · cases h
      · cases h
      · cases h
        cases foreign

namespace Template

variable {template : Template} {capabilities : Capabilities} {among : EvaluationError → Prop}

/-- The parameters of a type are declared. -/
theorem hasMeaning_of_mem_parametersOfType {type name : String} (h : name ∈ template.parametersOfType type) :
  template.hasMeaning name
  := by
  obtain ⟨entry, hm, hn⟩ := List.mem_filterMap.mp h
  split at hn
  · cases hn
    have declared : template.isParameter entry.1 := by
      rw [isParameter, Table.contains_iff]
      exact List.mem_map_of_mem hm
    simp [hasMeaning, declared]
  · cases hn

section

variable (raised : ∀ error, capabilities.Raises error → among error)

include raised

theorem blames_inquire (dependency : Dependency) :
  Blames among (capabilities.inquire dependency)
  := by
  intro error failed foreign
  unfold Capabilities.inquire at failed
  split at failed
  · next found =>
    cases failed
    exact raised error (Capabilities.raises_of_find_eq_error found foreign)
  · cases failed
  · cases failed

theorem blames_evalRef {name : String} (stray : ∀ error ∈ template.stray? (.value name), among error) :
  Blames among (template.evalRef capabilities name)
  := by
  rw [evalRef_eq]
  split
  · exact .result _
  split
  · exact .andThen (blames_inquire raised _) fun finding => .result _
  · next meaningless =>
    apply Blames.failed
    apply stray
    unfold dependencyOf? at meaningless
    simp only [stray?, hasMeaning]
    grind

theorem blames_evalGetAtt {logicalId : String} (attr : String)
    (stray : ∀ error ∈ template.stray? (.member logicalId), among error) :
  Blames among (template.evalGetAtt capabilities logicalId attr)
  := by
  rw [evalGetAtt_eq]
  split
  · refine .andThen (blames_inquire raised _) fun finding => ?_
    split
    · exact .result _
    · split
      · exact .result _
      · rintro _ ⟨⟩ foreign
        cases foreign
  · next undeclared =>
    apply Blames.failed
    apply stray
    simp [stray?, undeclared]

theorem blames_evalCondition (name : String) :
  Blames among (evalCondition capabilities name)
  := by
  rw [evalCondition_eq]
  exact .andThen (blames_inquire raised _) fun finding => .result _

theorem blames_evalPlaceholder {name : String}
    (stray : ∀ error ∈ template.stray? (.placeholder name), among error) :
  Blames among (template.evalPlaceholder capabilities name)
  := by
  unfold evalPlaceholder
  split
  · next known =>
    apply blames_evalRef raised
    simp [stray?, hasMeaning, known]
  · next unknown =>
    split
    · next logicalId attr dot =>
      split
      · next declared =>
        apply blames_evalGetAtt raised
        simp [stray?, declared]
      · next undeclared =>
        apply Blames.failed
        apply stray
        simp [stray?, hasMeaning, unknown, dot, undeclared]
    · next dot =>
      apply Blames.failed
      apply stray
      simp [stray?, hasMeaning, unknown, dot]

/-- The segments of a text blame what its placeholders do, bound or not. -/
theorem blames_evalSegments {binding : String → Option Expression} {segments : List Segment}
    (bound : ∀ name value, binding name = some value → Blames among (template.eval capabilities value))
    (free : ∀ name ∈ Segment.placeholders segments, binding name = none →
      ∀ error ∈ template.stray? (.placeholder name), among error) :
  Blames among
    (template.evalSegments capabilities (fun name => (binding name).map (template.eval capabilities)) segments)
  := by
  induction segments with
  | nil => exact .result _
  | cons segment rest ih =>
    cases segment with
    | literal text =>
      simp only [evalSegments, Evaluation.bind_eq, Evaluation.pure_eq]
      exact .andThen (ih free) fun after => .result _
    | placeholder name =>
      simp only [evalSegments, Evaluation.bind_eq, Evaluation.pure_eq]
      apply Blames.andThen
      · cases hv : binding name with
        | some value => exact bound name value hv
        | none => exact blames_evalPlaceholder raised (free name List.mem_cons_self hv)
      · intro slot
        refine .andThen (.writtenText slot) fun text => ?_
        apply Blames.andThen
        · exact ih fun other ho => free other (List.mem_cons_of_mem _ ho)
        · intro after
          exact .result _

theorem blames_evalRefs {names : List String} (known : ∀ name ∈ names, template.hasMeaning name) :
  Blames among (template.evalRefs capabilities names)
  := by
  induction names with
  | nil => exact .result _
  | cons name rest ih =>
    simp only [evalRefs, Evaluation.bind_eq, Evaluation.pure_eq]
    apply Blames.andThen
    · apply blames_evalRef raised
      simp [stray?, known name List.mem_cons_self]
    · intro slot
      refine .andThen (ih fun other ho => known other (List.mem_cons_of_mem _ ho)) fun slots => ?_
      exact .result _

theorem blames_evalZones (region : Json) :
  Blames among (template.evalZones capabilities region)
  := by
  simp only [evalZones, Evaluation.bind_eq, Evaluation.pure_eq]
  refine .andThen (.lift (Plain.regionName region)) fun name => ?_
  split
  · apply Blames.andThen
    · apply blames_evalRef raised
      simp [stray?, hasMeaning, show isPseudoParameter "AWS::Region" = true by decide]
    · intro slot
      cases slot with
      | ready value => exact .andThen (.lift (Plain.expectString _ value)) fun current => .result _
      | noValue => exact .result _
      | pending => exact .result _
  · exact .result _

end

mutual

/-- An evaluation blames the strays of its expression. -/
theorem blames_eval (raised : ∀ error, capabilities.Raises error → among error) (expression : Expression)
    (strays : ∀ site ∈ expression.sites, ∀ error ∈ template.stray? site, among error) :
  Blames among (template.eval capabilities expression)
  := by
  cases expression with
  | null | bool | number | string =>
    simp only [eval]
    exact .result _
  | list items =>
    simp only [eval, Evaluation.bind_eq, Evaluation.pure_eq]
    exact .andThen (blames_evalItems raised items strays) fun slots => .result _
  | object fields =>
    simp only [eval, Evaluation.bind_eq, Evaluation.pure_eq]
    exact .andThen (blames_evalFields raised fields strays) fun slots => .result _
  | ref name =>
    simp only [eval]
    exact blames_evalRef raised (strays _ List.mem_cons_self)
  | getAtt logicalId attr =>
    simp only [eval]
    exact blames_evalGetAtt raised attr (strays _ List.mem_cons_self)
  | sub text bound =>
    simp only [Expression.sites, List.mem_append] at strays
    simp only [eval, evalVariable_eq, Evaluation.bind_eq, Evaluation.pure_eq]
    apply Blames.andThen
    · apply blames_evalSegments raised
      · intro name value hv
        exact blames_variable raised bound (fun site hs => strays site (.inl hs)) hv
      · intro name hn hv
        apply strays _ (.inr _)
        apply List.mem_map_of_mem
        simp [hn, hv]
    · intro text
      exact .result _
  | refAll type =>
    simp only [eval, Evaluation.bind_eq, Evaluation.pure_eq]
    apply Blames.andThen
    · exact blames_evalRefs raised fun name => hasMeaning_of_mem_parametersOfType
    · intro slots
      exact .result _
  | condition name =>
    simp only [eval, Evaluation.bind_eq, Evaluation.pure_eq]
    refine .andThen (blames_evalCondition raised name) fun holds => ?_
    cases holds with
    | none => exact .result _
    | some holds => exact .result _
  | ifNamed name holds otherwise =>
    simp only [Expression.sites, List.mem_append] at strays
    simp only [eval, Evaluation.bind_eq, Evaluation.pure_eq]
    refine .andThen (blames_evalCondition raised name) fun test => ?_
    match test with
    | none => exact .result _
    | some true => exact blames_eval raised holds fun site hs => strays site (.inl hs)
    | some false => exact blames_eval raised otherwise fun site hs => strays site (.inr hs)
  | ifValue test holds otherwise =>
    simp only [Expression.sites, List.mem_append] at strays
    simp only [eval, Evaluation.bind_eq, Evaluation.pure_eq]
    refine .andThen (blames_eval raised test fun site hs => strays site (.inl hs)) fun slot => ?_
    cases slot.argument? with
    | none => exact .result _
    | some value =>
      refine .andThen (.lift (Plain.expectBool _ value)) fun taken => ?_
      match taken with
      | true => exact blames_eval raised holds fun site hs => strays site (.inr (.inl hs))
      | false => exact blames_eval raised otherwise fun site hs => strays site (.inr (.inr hs))
  | getAZs region =>
    simp only [eval, Evaluation.bind_eq, Evaluation.pure_eq]
    refine .andThen (blames_eval raised region strays) fun slot => ?_
    cases slot.argument? with
    | none => exact .result _
    | some region => exact blames_evalZones raised region
  | findInMap map top second =>
    simp only [Expression.sites, List.mem_append] at strays
    simp only [eval, Evaluation.bind_eq, Evaluation.pure_eq]
    refine .andThen (blames_eval raised map fun site hs => strays site (.inl hs)) fun map => ?_
    refine .andThen (blames_eval raised top fun site hs => strays site (.inr (.inl hs))) fun top => ?_
    refine .andThen (blames_eval raised second fun site hs => strays site (.inr (.inr hs))) fun second => ?_
    split
    · exact .lift ((Plain.findInMap _ _ _ _).map _)
    · exact .result _
  | unary function argument =>
    simp only [eval, Evaluation.bind_eq]
    refine .andThen (.lift (Plain.unary_check function)) fun _ => ?_
    refine .andThen (blames_eval raised argument strays) fun slot => ?_
    exact .ofArgument slot (Plain.unary_apply function)
  | binary function first second =>
    simp only [Expression.sites, List.mem_append] at strays
    simp only [eval, Evaluation.bind_eq, Evaluation.pure_eq]
    refine .andThen (blames_eval raised first fun site hs => strays site (.inl hs)) fun first => ?_
    refine .andThen (blames_eval raised second fun site hs => strays site (.inr hs)) fun second => ?_
    split
    · exact .lift ((Plain.binary_apply function _ _).map _)
    · exact .result _
  | junction connective operands =>
    simp only [eval, Evaluation.bind_eq, Evaluation.pure_eq]
    refine .andThen (.lift (Plain.junction_check connective _)) fun _ => ?_
    refine .andThen (blames_evalOperands raised connective operands strays) fun values => ?_
    exact .result _

theorem blames_evalItems (raised : ∀ error, capabilities.Raises error → among error) (items : List Expression)
    (strays : ∀ site ∈ Expression.itemSites items, ∀ error ∈ template.stray? site, among error) :
  Blames among (template.evalItems capabilities items)
  := by
  cases items with
  | nil =>
    simp only [evalItems]
    exact .result _
  | cons item rest =>
    simp only [Expression.itemSites, List.mem_append] at strays
    simp only [evalItems, Evaluation.bind_eq, Evaluation.pure_eq]
    refine .andThen (blames_eval raised item fun site hs => strays site (.inl hs)) fun slot => ?_
    refine .andThen (blames_evalItems raised rest fun site hs => strays site (.inr hs)) fun slots => ?_
    exact .result _

theorem blames_evalFields (raised : ∀ error, capabilities.Raises error → among error)
    (fields : List (String × Expression))
    (strays : ∀ site ∈ Expression.fieldSites fields, ∀ error ∈ template.stray? site, among error) :
  Blames among (template.evalFields capabilities fields)
  := by
  match fields with
  | [] =>
    simp only [evalFields]
    exact .result _
  | (key, value) :: rest =>
    simp only [Expression.fieldSites, List.mem_append] at strays
    simp only [evalFields, Evaluation.bind_eq, Evaluation.pure_eq]
    refine .andThen (blames_eval raised value fun site hs => strays site (.inl hs)) fun slot => ?_
    refine .andThen (blames_evalFields raised rest fun site hs => strays site (.inr hs)) fun slots => ?_
    exact .result _

theorem blames_variable (raised : ∀ error, capabilities.Raises error → among error)
    (fields : List (String × Expression))
    (strays : ∀ site ∈ Expression.fieldSites fields, ∀ error ∈ template.stray? site, among error)
    {name : String} {value : Expression} (hv : lookup name fields = some value) :
  Blames among (template.eval capabilities value)
  := by
  match fields with
  | [] => cases hv
  | (key, first) :: rest =>
    simp only [Expression.fieldSites, List.mem_append] at strays
    simp only [lookup] at hv
    split at hv
    · rw [← Option.some.inj hv]
      exact blames_eval raised first fun site hs => strays site (.inl hs)
    · exact blames_variable raised rest (fun site hs => strays site (.inr hs)) hv

theorem blames_evalOperands (raised : ∀ error, capabilities.Raises error → among error) (connective : Junction)
    (operands : List Expression)
    (strays : ∀ site ∈ Expression.itemSites operands, ∀ error ∈ template.stray? site, among error) :
  Blames among (template.evalOperands capabilities connective operands)
  := by
  cases operands with
  | nil =>
    simp only [evalOperands]
    exact .result _
  | cons operand rest =>
    simp only [Expression.itemSites, List.mem_append] at strays
    simp only [evalOperands, Evaluation.bind_eq, Evaluation.pure_eq]
    refine .andThen (blames_eval raised operand fun site hs => strays site (.inl hs)) fun slot => ?_
    refine .andThen (.truth connective.name slot) fun value => ?_
    refine .andThen (blames_evalOperands raised connective rest fun site hs => strays site (.inr hs)) fun values => ?_
    exact .result _

end

/-- When an error that an evaluation fails with does not come from values, it is a stray of the expression, or one
that a condition was answered with. -/
theorem mem_strays_or_raises {expression : Expression} {error : EvaluationError} (foreign : error.isForeign)
    (failed : template.evaluate capabilities expression = .error error) :
  error ∈ template.strays expression ∨ capabilities.Raises error
  := by
  have blames : Blames (fun error => error ∈ template.strays expression ∨ capabilities.Raises error)
      (template.eval capabilities expression) := by
    apply blames_eval
    · exact fun error raised => .inr raised
    · intro site hs error stray
      exact .inl (List.mem_filterMap.mpr ⟨site, hs, stray⟩)
  exact blames error (template.evaluate_eq_error.mp failed) foreign

/-- When the evaluation of an expression fails because of a name that means nothing, the name is a stray of
the expression, unless the error is one that a condition was answered with. -/
theorem mem_strays_of_evaluate {expression : Expression} {error : EvaluationError} (unknown : error.isUnknown)
    (failed : template.evaluate capabilities expression = .error error) :
  error ∈ template.strays expression ∨ capabilities.Raises error
  := mem_strays_or_raises (EvaluationError.isForeign_of_isUnknown unknown) failed

/-- A stray is a name that means nothing. -/
theorem isUnknown_of_stray? {site : Site} {error : EvaluationError} (stray : error ∈ template.stray? site) :
  error.isUnknown
  := by
  unfold stray? at stray
  grind [EvaluationError.isUnknown]

/-- An evaluation does not fail because a value is not available, unless a condition was answered with that. -/
theorem raises_of_evaluate {expression : Expression} {dependencies : List String}
    (failed : template.evaluate capabilities expression = .error (.unresolvedAccess dependencies)) :
  capabilities.Raises (.unresolvedAccess dependencies)
  := by
  obtain stray | raised := mem_strays_or_raises rfl failed
  · obtain ⟨site, -, stray⟩ := List.mem_filterMap.mp stray
    cases isUnknown_of_stray? stray
  · exact raised

end Template

end Reconcile
