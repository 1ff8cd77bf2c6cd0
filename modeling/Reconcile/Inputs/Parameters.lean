import Reconcile.Error.Basic
import Reconcile.Number.Reading
import Reconcile.Pattern.Reading
import Reconcile.Text.Scan

/-!
# Parameter values

Supplied values are texts.  They are checked against the constraints of the parameters; the
values of list types become lists of texts, all others stay texts.  A parameter without a
supplied value takes its default.
-/

namespace Reconcile

/-- Whether the values of a type are lists, separated by commas. -/
def ParameterType.isList : ParameterType → Bool
  | .numberList | .commaDelimitedList => true
  | .other name => Text.startsWith name "List<"
  | _ => false

/-- The text of a value in a declaration. -/
def Json.plainText : Json → String
  | .string s => s
  | other => other.compact

/-- The text of a default value; the items of a list are joined by commas. -/
def Json.defaultText : Json → String
  | .list items => String.intercalate "," (items.map plainText)
  | other => other.plainText

namespace Parameter

/-- Whether the values of a parameter must not be shown. -/
def isMasked (p : Parameter) : Bool :=
  match p.noEcho with
  | some (.bool b) => b
  | some (.string s) => Text.sameAsciiCase s "true"
  | _ => false

/-- What is wrong with a number beyond the bounds. -/
def boundFault? (p : Parameter) (text : String) : Option Violation :=
  match Extended.ofText? text.toList with
  | none => some (.notNumber text)
  | some x =>
    match p.minValue.filter x.lt, p.maxValue.filter (Extended.lt · x) with
    | some bound, _ => some (.belowMinimum text bound)
    | none, some bound => some (.aboveMaximum text bound)
    | none, none => none

/-- What is wrong with the length of a text. -/
def lengthFault? (p : Parameter) (text : String) : Option Violation :=
  let length := text.toList.length
  match p.minLength.filter (length < ·), p.maxLength.filter (· < length) with
  | some bound, _ => some (.tooShort length bound)
  | none, some bound => some (.tooLong length bound)
  | none, none => none

/-- What is wrong with a text that has to match a pattern as a whole. -/
def patternFault? (p : Parameter) (text : String) : Option Violation :=
  p.allowedPattern.bind fun written =>
    match Pattern.whole? written with
    | none => some (.invalidPattern written)
    | some pattern => if pattern.occursIn text then none else some (.noMatch text written)

/-- What is wrong with a text that has to be one of some values. -/
def choiceFault? (p : Parameter) (text : String) : Option Violation :=
  p.allowedValues.bind fun values =>
    let choices := values.map Json.plainText
    if choices.contains text then none else some (.notAllowed text choices)

/-- What is wrong with a single text: its bounds or length, its pattern, the choices. -/
def fault? (p : Parameter) (text : String) : Option Violation :=
  (if p.type.isNumeric then p.boundFault? text else p.lengthFault? text)
    <|> p.patternFault? text <|> p.choiceFault? text

/-- The items of the text of a list, without the white space around them; a blank text has none. -/
def itemsOf (text : String) : List String :=
  if (Text.trim text.toList).isEmpty then [] else (Text.split "," text).map Text.strip

/-- The value that a text stands for, if it satisfies the constraints. -/
def validate (p : Parameter) (name text : String) : Except StackError Json :=
  let texts := if p.type.isList then itemsOf text else [text]
  match texts.findSome? p.fault? with
  | some violation => .error (.parameterValidation name violation p.constraintDescription)
  | none => .ok (if p.type.isList then .strings texts else .string text)

end Parameter

/-- The values of the parameters of a template. -/
structure ParameterValues where
  values : Table Json := .empty
  /-- The types of the parameters that have a value. -/
  types : Table ParameterType := .empty
  /-- The parameters whose values must not be shown. -/
  masked : List String := []
  deriving Inhabited

namespace ParameterValues

/-- The values of the parameters of a type, in order of declaration. -/
def ofType (values : ParameterValues) (type : String) : List Json :=
  values.types.entries.filterMap fun entry =>
    if entry.2.name = type then values.values.get? entry.1 else none

/-- Add the value of a parameter. -/
def add (values : ParameterValues) (name : String) (p : Parameter) (value : Json) : ParameterValues where
  values := values.values.insert name value
  types := values.types.insert name p.type
  masked := if p.isMasked then values.masked ++ [name] else values.masked

/-- The text that a parameter takes its value from. -/
def textFor (supplied : Table String) (name : String) (p : Parameter) : Except StackError String :=
  match supplied.get? name, p.default with
  | some text, _ => .ok text
  | none, some value => .ok value.defaultText
  | none, none => .error (.parameterValidation name .noValue none)

/-- Check supplied values against the declared parameters. -/
def validate (declared : Table Parameter) (supplied : Table String) : Except StackError ParameterValues :=
  match supplied.names.find? fun name => !declared.contains name with
  | some name => .error (.parameterValidation name .notDeclared none)
  | none =>
    declared.entries.foldlM (fun values (name, p) => do
      let text ← textFor supplied name p
      let value ← p.validate name text
      return values.add name p value) {}

end ParameterValues

end Reconcile
