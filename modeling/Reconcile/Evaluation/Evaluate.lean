import Reconcile.Evaluation.Functions
import Reconcile.Evaluation.Resolution
import Reconcile.Expression.Substitution

/-!
# Evaluation

The value of an expression against a template and a bundle of capabilities.  An evaluation
goes through the expression from left to right.  It stops at the first error; where something
is not available yet it goes on, so that it reports everything it waits for.  Of a choice only
the branch that is taken is evaluated.
-/

namespace Reconcile

/-- A computation that may fail and that leaves a footprint. -/
inductive Evaluation (α : Type) where
  | failed (error : EvaluationError)
  | ended (a : α) (footprint : Footprint)
  deriving Inhabited

namespace Evaluation

variable {α β : Type}

/-- A result that depends on nothing. -/
def result (a : α) : Evaluation α := .ended a {}

/-- Go on with the result of a computation; the footprints add up. -/
def andThen (first : Evaluation α) (next : α → Evaluation β) : Evaluation β :=
  match first with
  | .failed error => .failed error
  | .ended a footprint =>
    match next a with
    | .failed error => .failed error
    | .ended b footprint' => .ended b (footprint.append footprint')

instance : Monad Evaluation where
  pure := result
  bind := andThen

/-- A computation that depends on nothing and may fail. -/
def lift : Except EvaluationError α → Evaluation α
  | .error error => .failed error
  | .ok a => .result a

/-- A result that depends on something available. -/
def depending (dependency : Dependency) (a : α) : Evaluation α := .ended a ⟨[dependency], []⟩

/-- A result that is missing because something is not available. -/
def waiting (dependency : Dependency) (a : α) : Evaluation α := .ended a ⟨[], [dependency]⟩

end Evaluation

/-- What stands at a place of a value under evaluation. -/
inductive Slot where
  | ready (value : Json)
  /-- The place is dropped from the list or object around it. -/
  | noValue
  | pending
  deriving Inhabited

namespace Slot

/-- The value of an argument, where a dropped place counts as null; nothing while it is pending. -/
def argument? : Slot → Option Json
  | .ready value => some value
  | .noValue => some .null
  | .pending => none

/-- Whether a slot is pending. -/
def isPending : Slot → Bool
  | .pending => true
  | _ => false

/-- The value of a slot that is ready. -/
def ready? : Slot → Option Json
  | .ready value => some value
  | _ => none

/-- A list of slots, pending if one of them is. -/
def ofItems (slots : List Slot) : Slot :=
  if slots.any isPending then .pending else .ready (.list (slots.filterMap ready?))

/-- An object of slots, pending if one of them is. -/
def ofFields (slots : List (String × Slot)) : Slot :=
  if slots.any (·.2.isPending) then .pending
  else .ready (.object (slots.filterMap fun slot => slot.2.ready?.map (slot.1, ·)))

/-- The text that a slot contributes to the text around it; nothing while it is pending. -/
def writtenText : Slot → Evaluation (Option String)
  | .ready value => .lift ((value.scalarText "Fn::Sub").map some)
  | .noValue => .result (some "")
  | .pending => .result none

/-- The truth value of an operand of a function; nothing while it is pending. -/
def truth (function : String) (slot : Slot) : Evaluation (Option Bool) :=
  match slot.argument? with
  | some value => .lift ((value.expectBool function).map some)
  | none => .result none

/-- A value computed from an argument once it is there. -/
def ofArgument (slot : Slot) (apply : Json → Except EvaluationError Json) : Evaluation Slot :=
  match slot.argument? with
  | none => .result .pending
  | some value => .lift ((apply value).map .ready)

end Slot

namespace Template

variable (template : Template) (capabilities : Capabilities)

/-- The resource with a logical id, if it is available. -/
def evalResource (logicalId : String) : Evaluation (Option PhysicalResource) :=
  match capabilities.resources with
  | none => .waiting (.resource logicalId) none
  | some view =>
    match view.availability logicalId with
    | .available resource => .depending (.resource logicalId) (some resource)
    | .pending => .waiting (.resource logicalId) none
    | .excluded => .failed (.resourceExcluded logicalId)

/-- The value of a reference to a resource: the attribute that its type is known by, otherwise the
physical id. -/
def refValue (resource : PhysicalResource) : Json :=
  let projected :=
    capabilities.resources.bind fun view =>
      (view.refAttribute resource.type).bind resource.attribute?
  match projected, resource.physicalId with
  | some value, _ => value
  | none, some physicalId => .string physicalId
  | none, none => .null

/-- The value of a reference to a name. -/
def evalRef (name : String) : Evaluation Slot :=
  if name = "AWS::NoValue" then .result .noValue
  else if isPseudoParameter name then
    match capabilities.pseudoParameters with
    | none => .waiting (.pseudoParameter name) .pending
    | some values =>
      match values name with
      | some value => .depending (.pseudoParameter name) (.ready value)
      | none => .failed (.unknownPseudoParameter name)
  else if template.isParameter name then
    match capabilities.parameters with
    | none => .waiting (.parameter name) .pending
    | some values =>
      match values name with
      | some value => .depending (.parameter name) (.ready value)
      | none => .failed (.missingParameterValue name)
  else if template.isResource name then do
    match ← evalResource capabilities name with
    | some resource => .result (.ready (refValue capabilities resource))
    | none => .result .pending
  else .failed (.unknownReference name)

/-- The value of an attribute of a resource. -/
def evalGetAtt (logicalId attr : String) : Evaluation Slot :=
  if template.isResource logicalId then do
    match ← evalResource capabilities logicalId with
    | none => .result .pending
    | some resource =>
      match resource.attribute? attr with
      | some value => .result (.ready value)
      | none => .failed (.missingAttribute logicalId attr)
  else .failed (.unknownReference logicalId)

/-- The value of a condition of the template. -/
def evalCondition (name : String) : Evaluation (Option Bool) :=
  match capabilities.conditions with
  | none => .waiting (.condition name) none
  | some values =>
    match values name with
    | .ok value => .depending (.condition name) (some value)
    | .error error => .failed error

/-- The value of a placeholder that no variable binds. -/
def evalPlaceholder (name : String) : Evaluation Slot :=
  if isPseudoParameter name || template.isParameter name || template.isResource name then
    evalRef template capabilities name
  else
    match Text.splitOnce '.' name with
    | some (logicalId, attr) =>
      if template.isResource logicalId then evalGetAtt template capabilities logicalId attr
      else .failed (.unknownSubVariable name)
    | none => .failed (.unknownSubVariable name)

/-- The text of some segments, given the values of bound placeholders; nothing while one of the
placeholders is pending. -/
def evalSegments (bound : String → Option (Evaluation Slot)) : List Segment → Evaluation (Option String)
  | [] => .result (some "")
  | .literal text :: rest => do
    let after ← evalSegments bound rest
    return after.map (text ++ ·)
  | .placeholder name :: rest => do
    let slot ← (bound name).getD (evalPlaceholder template capabilities name)
    let text ← slot.writtenText
    let after ← evalSegments bound rest
    return text.bind fun text => after.map (text ++ ·)

/-- The values of references to some names, in order. -/
def evalRefs : List String → Evaluation (List Slot)
  | [] => .result []
  | name :: rest => do
    let slot ← evalRef template capabilities name
    let slots ← evalRefs rest
    return slot :: slots

/-- The names of the parameters of a type. -/
def parametersOfType (type : String) : List String :=
  template.parameters.entries.filterMap fun entry =>
    if entry.2.type.name = type then some entry.1 else none

/-- The name of a region, where null is an empty one. -/
def regionName : Json → Except EvaluationError String
  | .null => .ok ""
  | region => region.expectString "Fn::GetAZs"

/-- The zones of a region, where an empty name stands for the current region. -/
def evalZones (region : Json) : Evaluation Slot := do
  let region ← Evaluation.lift (regionName region)
  if region.isEmpty then
    match ← evalRef template capabilities "AWS::Region" with
    | .ready value => do
      let current ← Evaluation.lift (value.expectString "Fn::GetAZs")
      return .ready (zonesOf current)
    | _ => return .pending
  else return .ready (zonesOf region)

/-- The value in a mapping under two keys. -/
def findInMap (map top second : Json) : Except EvaluationError Json := do
  let map ← map.scalarText "Fn::FindInMap"
  let top ← top.scalarText "Fn::FindInMap"
  let second ← second.scalarText "Fn::FindInMap"
  match ((template.mappings.get? map).bind (·.get? top)).bind (·.get? second) with
  | some value => return value
  | none => .error (.mappingLookup map top second)

mutual

/-- The slot of an expression. -/
def eval : Expression → Evaluation Slot
  | .null => .result (.ready .null)
  | .bool b => .result (.ready (.bool b))
  | .number n => .result (.ready (.number n))
  | .string s => .result (.ready (.string s))
  | .list items => do
    let slots ← evalItems items
    return .ofItems slots
  | .object fields => do
    let slots ← evalFields fields
    return .ofFields slots
  | .ref name => evalRef template capabilities name
  | .getAtt logicalId attr => evalGetAtt template capabilities logicalId attr
  | .sub text bound => do
    let text ← evalSegments template capabilities (fun name => evalVariable name bound)
      (Substitution.segments text)
    return match text with
      | some text => .ready (.string text)
      | none => .pending
  | .refAll type => do
    let slots ← evalRefs template capabilities (template.parametersOfType type)
    return .ofItems slots
  | .condition name => do
    match ← evalCondition capabilities name with
    | some b => return .ready (.bool b)
    | none => return .pending
  | .ifNamed name holds otherwise => do
    match ← evalCondition capabilities name with
    | none => return .pending
    | some true => eval holds
    | some false => eval otherwise
  | .ifValue test holds otherwise => do
    let slot ← eval test
    match slot.argument? with
    | none => return .pending
    | some value => do
      match ← Evaluation.lift (value.expectBool "Fn::If") with
      | true => eval holds
      | false => eval otherwise
  | .getAZs region => do
    let slot ← eval region
    match slot.argument? with
    | none => return .pending
    | some region => evalZones template capabilities region
  | .findInMap map top second => do
    let map ← eval map
    let top ← eval top
    let second ← eval second
    match map.argument?, top.argument?, second.argument? with
    | some map, some top, some second => .lift ((findInMap template map top second).map .ready)
    | _, _, _ => return .pending
  | .unary function argument => do
    Evaluation.lift function.check
    let slot ← eval argument
    slot.ofArgument function.apply
  | .binary function first second => do
    let first ← eval first
    let second ← eval second
    match first.argument?, second.argument? with
    | some first, some second => .lift ((function.apply first second).map .ready)
    | _, _ => return .pending
  | .junction connective operands => do
    Evaluation.lift (connective.check operands.length)
    let operands ← evalOperands connective operands
    return match operands with
      | some operands => .ready (.bool (connective.apply operands))
      | none => .pending

/-- The slots of some expressions. -/
def evalItems : List Expression → Evaluation (List Slot)
  | [] => .result []
  | item :: rest => do
    let slot ← eval item
    let slots ← evalItems rest
    return slot :: slots

/-- The slots of some fields. -/
def evalFields : List (String × Expression) → Evaluation (List (String × Slot))
  | [] => .result []
  | (key, value) :: rest => do
    let slot ← eval value
    let slots ← evalFields rest
    return (key, slot) :: slots

/-- The slot of the variable with a name, if there is one. -/
def evalVariable (name : String) : List (String × Expression) → Option (Evaluation Slot)
  | [] => none
  | (key, value) :: rest => if key = name then some (eval value) else evalVariable name rest

/-- The truth values of operands; nothing while one of them is pending. -/
def evalOperands (connective : Junction) : List Expression → Evaluation (Option (List Bool))
  | [] => .result (some [])
  | operand :: rest => do
    let slot ← eval operand
    let value ← slot.truth connective.name
    let values ← evalOperands connective rest
    return value.bind fun value => values.map (value :: ·)

end

/-- The outcome of a computation of a value. -/
def resolution : Evaluation (Option Json) → Except EvaluationError Resolution
  | .failed error => .error error
  | .ended value footprint =>
    .ok ⟨value, arranged footprint.resolved, arranged footprint.unresolved⟩

/-- Evaluate an expression. -/
def evaluate (expression : Expression) : Except EvaluationError Resolution :=
  resolution (do return (← eval template capabilities expression).argument?)

end Template

/-- Evaluate a condition by its name. -/
def Capabilities.evaluateCondition (capabilities : Capabilities) (name : String) :
    Except EvaluationError Resolution :=
  Template.resolution (do return (← Template.evalCondition capabilities name).map .bool)

end Reconcile
