import Reconcile.Expression.Basic
import Reconcile.Expression.Substitution

/-!
# References

The names that an expression mentions, in order and without repetition.  Both branches of a
choice are looked at, so every name that an evaluation can ask for is among them.  The
placeholders of a text that its own variables bind are not references.
-/

namespace Reconcile

/-- A mention of a name. -/
inductive Reference where
  /-- The value of a name. -/
  | value (name : String)
  /-- An attribute of a resource. -/
  | member (logicalId : String)
  deriving DecidableEq, Repr

namespace Reference

/-- The name that is mentioned. -/
def name : Reference → String
  | .value name => name
  | .member logicalId => logicalId

/-- The reference a placeholder makes: an attribute when its name has a dot. -/
def ofPlaceholder (name : String) : Reference :=
  match Text.splitOnce '.' name with
  | some (logicalId, _) => .member logicalId
  | none => .value name

end Reference

namespace Expression

/-- The references of a text with placeholders, without those that are bound. -/
def textMentions (text : String) (bound : List (String × Expression)) : List Reference :=
  ((Substitution.placeholders text).filter fun name => (lookup name bound).isNone).map
    Reference.ofPlaceholder

mutual

/-- The mentions of names in an expression, in order and with repetition. -/
def mentions : Expression → List Reference
  | .null | .bool _ | .number _ | .string _ | .refAll _ | .condition _ => []
  | .list items => itemMentions items
  | .object fields => fieldMentions fields
  | .ref name => [.value name]
  | .getAtt logicalId _ => [.member logicalId]
  | .sub text bound => fieldMentions bound ++ textMentions text bound
  | .ifNamed _ holds otherwise => mentions holds ++ mentions otherwise
  | .ifValue test holds otherwise => mentions test ++ (mentions holds ++ mentions otherwise)
  | .getAZs region => mentions region
  | .findInMap map top second => mentions map ++ (mentions top ++ mentions second)
  | .unary _ argument => mentions argument
  | .binary _ first second => mentions first ++ mentions second
  | .junction _ operands => itemMentions operands

/-- The mentions of names in some expressions. -/
def itemMentions : List Expression → List Reference
  | [] => []
  | item :: rest => mentions item ++ itemMentions rest

/-- The mentions of names in some fields. -/
def fieldMentions : List (String × Expression) → List Reference
  | [] => []
  | (_, value) :: rest => mentions value ++ fieldMentions rest

end

/-- The references of an expression, in order of first mention. -/
def references (expression : Expression) : List Reference := expression.mentions.eraseDups

end Expression

end Reconcile
