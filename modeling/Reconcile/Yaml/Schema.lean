import Reconcile.Document.Basic
import Reconcile.Yaml.Token

/-!
# The core schema of YAML

What a scalar stands for.  A plain scalar is read by its text: words for the null and the truth
values, integers in four bases, real numbers, and texts otherwise.  Other scalars are texts.  A tag
of the language itself asks for one of these readings.
-/

namespace Reconcile.Yaml

/-- The beginning of the tags of the language itself. -/
def coreTag : String := "tag:yaml.org,2002:"

/-- Whether a text is a word for null. -/
def isNull (text : String) : Bool := ["~", "null", "Null", "NULL"].contains text

/-- The truth value that a text is a word for. -/
def bool? (text : String) : Option Bool :=
  if ["true", "True", "TRUE"].contains text then some true
  else if ["false", "False", "FALSE"].contains text then some false
  else none

/-- Whether a text consists of digits the first of which is a zero that says nothing. -/
def hasIdleZero : List Char → Bool
  | '0' :: d :: rest => (d :: rest).all isDigit
  | _ => false

/-- A natural number in one of four bases. -/
def natural? : List Char → Option Nat
  | '0' :: 'x' :: digits => natOfBase? 16 digits
  | '0' :: 'o' :: digits => natOfBase? 8 digits
  | '0' :: 'b' :: digits => natOfBase? 2 digits
  | digits => if hasIdleZero digits then none else natOfBase? 10 digits

/-- An integer of at most 128 bits, and whether it has a minus. -/
def integer? (text : List Char) : Option (Bool × Int) :=
  let (negative, body) := splitSign text
  match natural? body with
  | some n =>
    if negative then if n ≤ Nat.pow 2 127 then some (true, -(n : Int)) else none
    else if n < Nat.pow 2 128 then some (false, (n : Int)) else none
  | none => none

/-- A real number, an infinity, or no number. -/
def real? (text : List Char) : Option Extended :=
  let (plus, body) :=
    match text with
    | '+' :: body => (true, body)
    | body => (false, body)
  if plus ∧ body.head?.any (fun c => c == '+' || c == '-') then none
  else if [".inf", ".Inf", ".INF"].contains (String.ofList body) then some (.infinite false)
  else if ["-.inf", "-.Inf", "-.INF"].contains (String.ofList text) then some (.infinite true)
  else if [".nan", ".NaN", ".NAN"].contains (String.ofList text) then some .nan
  else
    match Extended.ofText? body with
    | some (.finite x) => some (.finite x)
    | _ => none

/-- An integer as a value; one of more than 64 bits is none. -/
def integerValue (n : Int) : Option Json :=
  if -(Nat.pow 2 63 : Int) ≤ n ∧ n < Nat.pow 2 64 then some (.int n) else none

/-- A real number as a value; what is not finite is null. -/
def realValue : Extended → Json
  | .finite x => .number (.real x)
  | _ => .null

/-- The value of a plain scalar without a tag. -/
def plainValue (text : String) : Option Json :=
  if text.isEmpty || isNull text then some .null
  else
    match bool? text, integer? text.toList with
    | some b, _ => some (.bool b)
    | none, some (_, n) => integerValue n
    | none, none =>
      if hasIdleZero (splitSign text.toList).2 then some (.string text)
      else some (((real? text.toList).map realValue).getD (.string text))

/-- The value of a scalar under a tag that is not local. -/
def taggedValue (tag text : String) : Option Json :=
  if tag = coreTag ++ "bool" then (bool? text).map .bool
  else if tag = coreTag ++ "int" then (integer? text.toList).bind fun n => integerValue n.2
  else if tag = coreTag ++ "float" then (real? text.toList).map realValue
  else if tag = coreTag ++ "null" then if isNull text then some .null else none
  else some (.string text)

/-- The readings of a scalar under no tag, or under one that is not local. -/
def readings (tag : Option String) (style : Style) (text : String) : Scalar :=
  let isPlain := style = .plain
  let asNumber (name : String) : Bool :=
    isPlain || (style == .literal && tag == some (coreTag ++ name))
  { value :=
      match tag with
      | some tag => taggedValue tag text
      | none => if isPlain then plainValue text else some (.string text)
    text := some text
    real := if asNumber "float" then real? text.toList else none
    count :=
      match if asNumber "int" then integer? text.toList else none with
      | some (negative, n) => if !negative && n < Nat.pow 2 64 then some n.toNat else none
      | none => none
    absent :=
      isPlain &&
        match tag with
        | some tag => tag == coreTag ++ "null" && isNull text
        | none => text.isEmpty || isNull text
    blank := isPlain && text.isEmpty }

/-- What a tag makes of the reading of a node: a local tag is a mark on the reading that the node
has without it. -/
def underTag (tag : Option String) (read : Option String → Document) : Document :=
  match tag with
  | some tag =>
    match tag.toList with
    | '!' :: rest => .marked (if rest.isEmpty then tag else String.ofList rest) (read none)
    | _ => read (some tag)
  | none => read none

end Reconcile.Yaml
