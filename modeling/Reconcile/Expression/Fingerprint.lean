import Reconcile.Expression.Basic
import Reconcile.Digest.Encoding

/-!
# Fingerprints of properties

The fingerprint of the unevaluated properties of a resource is the hash of their canonical
form, so that it does not depend on the order of fields.
-/

namespace Reconcile

/-- The fingerprint of properties; absent properties count as the null value. -/
def fingerprint (properties : Option Expression) : String :=
  "sha256:" ++ sha256Hex (((properties.map Expression.toJson).getD .null).canonical)

end Reconcile
