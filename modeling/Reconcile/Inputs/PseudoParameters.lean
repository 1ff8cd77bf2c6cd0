import Reconcile.Config.Basic
import Reconcile.Digest.Encoding
import Reconcile.Json.Basic

/-!
# Pseudo-parameters

The values that every template can refer to without declaring them.  The stack id is derived
from the account and the name of the stack, so that the same stack always has the same id.
-/

namespace Reconcile

namespace Config

/-- The identifier of a stack. -/
def stackId (config : Config) : String :=
  let account := config.account
  let seed := String.intercalate "/" [account.partition, account.region, account.accountId, config.stackName]
  "arn:" ++ account.partition ++ ":cloudformation:" ++ account.region ++ ":" ++ account.accountId
    ++ ":stack/" ++ config.stackName ++ "/" ++ uuidText (Sha256.hash (utf8 seed))

/-- The names of the pseudo-parameters. -/
def pseudoParameterNames : List String := [
  "AWS::AccountId", "AWS::Region", "AWS::Partition", "AWS::URLSuffix", "AWS::StackName", "AWS::StackId",
  "AWS::NotificationARNs"]

/-- The value of a pseudo-parameter. -/
def pseudoParameter? (config : Config) (name : String) : Option Json :=
  match name with
  | "AWS::AccountId" => some (.string config.account.accountId)
  | "AWS::Region" => some (.string config.account.region)
  | "AWS::Partition" => some (.string config.account.partition)
  | "AWS::URLSuffix" => some (.string config.account.urlSuffix)
  | "AWS::StackName" => some (.string config.stackName)
  | "AWS::StackId" => some (.string config.stackId)
  | "AWS::NotificationARNs" => some (.strings config.account.notificationArns)
  | _ => none

end Config

end Reconcile
