import Reconcile.Error.Basic
import Reconcile.Text.Scan

/-!
# Configuration

The name of a stack, the account it lives in, and the schedule by which failed calls of
providers are repeated.
-/

namespace Reconcile

/-- The account a stack lives in. -/
structure Account where
  accountId : String := "123456789012"
  region : String := "us-east-1"
  partition : String := "aws"
  urlSuffix : String := "amazonaws.com"
  notificationArns : List String := []
  deriving DecidableEq, Repr, Inhabited

/-- The schedule of repeated calls; the delays are in milliseconds. -/
structure Retry where
  /-- The number of attempts, the first one included. -/
  maxAttempts : Nat := 5
  baseDelay : Nat := 1000
  maxDelay : Nat := 30000
  deriving DecidableEq, Repr, Inhabited

/-- The configuration of a stack. -/
structure Config where
  stackName : String := "stack"
  account : Account := {}
  retry : Retry := {}
  deriving DecidableEq, Repr, Inhabited

namespace Config

/-- The variable that overrides the region. -/
def regionVariable : String := "STACKWRIGHT_REGION"

/-- The variable that overrides the account. -/
def accountVariable : String := "STACKWRIGHT_ACCOUNT_ID"

/-- The configuration with the region and account of the environment; empty variables do not count. -/
def override (config : Config) (environment : String → Option String) : Config :=
  let set (name : String) : Option String := (environment name).filter fun value => !value.isEmpty
  { config with
    account :=
      { config.account with
        region := (set regionVariable).getD config.account.region
        accountId := (set accountVariable).getD config.account.accountId } }

/-- What makes a configuration unusable. -/
def fault? (config : Config) : Option String :=
  if (Text.trim config.stackName.toList).isEmpty then some "stack_name must not be empty"
  else if config.retry.maxAttempts = 0 then some "retry.max_attempts must be at least 1"
  else if config.retry.maxDelay < config.retry.baseDelay then
    some ("retry.base_delay_ms (" ++ toString config.retry.baseDelay
      ++ ") exceeds retry.max_delay_ms (" ++ toString config.retry.maxDelay ++ ")")
  else none

/-- Refuse a configuration that is unusable. -/
def validate (config : Config) : Except StackError Unit :=
  match config.fault? with
  | some message => .error (.configError message)
  | none => .ok ()

end Config

end Reconcile
