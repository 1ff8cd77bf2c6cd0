import Reconcile.Table
import Reconcile.Text.Scan

/-!
# Assignments

Parameter values as they are written on the command line, `KEY=VALUE`.  The first equals sign
separates the two, so that a value may hold further ones.
-/

namespace Reconcile

/-- What is wrong with an assignment. -/
inductive AssignmentError where
  /-- It has no equals sign. -/
  | noSign (raw : String)
  /-- Nothing stands before the sign. -/
  | noName (raw : String)
  deriving DecidableEq, Repr

/-- An error as it is shown. -/
def AssignmentError.message : AssignmentError → String
  | .noSign raw => "expected KEY=VALUE, got '" ++ raw ++ "'"
  | .noName raw => "parameter name is empty in '" ++ raw ++ "'"

/-- The name and the value of an assignment. -/
def parseAssignment (raw : String) : Except AssignmentError (String × String) :=
  match Text.splitOnce '=' raw with
  | none => .error (.noSign raw)
  | some (key, value) =>
    let key := Text.strip key
    if key.isEmpty then .error (.noName raw) else .ok (key, value)

end Reconcile
