import Reconcile.Config.Basic
import Reconcile.Error.Advice
import Reconcile.Toml.Reader

/-!
# Configuration files

A configuration is read from a TOML text.  What the text does not say keeps its usual value, and
what it says beyond that is passed over.
-/

namespace Reconcile

namespace Document

/-- Where a natural number below a limit is wanted. -/
def countBelow (limit : Nat) : Decoder Nat := fun document => do
  let n ← count document
  if n < limit then return n else .error "a number that is too large"

/-- Where the account of a stack is wanted. -/
def account : Decoder Account := fun document => do
  let fields ← record ["account_id", "region", "partition", "url_suffix", "notification_arns"] document
  let usual : Account := {}
  return {
    accountId := ← fields.withDefault "account_id" usual.accountId string
    region := ← fields.withDefault "region" usual.region string
    partition := ← fields.withDefault "partition" usual.partition string
    urlSuffix := ← fields.withDefault "url_suffix" usual.urlSuffix string
    notificationArns := ← fields.withDefault "notification_arns" usual.notificationArns (listOf string) }

/-- Where the schedule of repeated calls is wanted. -/
def retry : Decoder Retry := fun document => do
  let fields ← record ["max_attempts", "base_delay_ms", "max_delay_ms"] document
  let usual : Retry := {}
  return {
    maxAttempts := ← fields.withDefault "max_attempts" usual.maxAttempts (countBelow (Nat.pow 2 32))
    baseDelay := ← fields.withDefault "base_delay_ms" usual.baseDelay (countBelow (Nat.pow 2 64))
    maxDelay := ← fields.withDefault "max_delay_ms" usual.maxDelay (countBelow (Nat.pow 2 64)) }

/-- Where a configuration is wanted. -/
def config : Decoder Config := fun document => do
  let fields ← record ["stack_name", "pseudo", "retry"] document
  let usual : Config := {}
  return {
    stackName := ← fields.withDefault "stack_name" usual.stackName string
    account := ← fields.withDefault "pseudo" usual.account account
    retry := ← fields.withDefault "retry" usual.retry retry }

end Document

/-- The configuration that a value writes. -/
def Config.ofJson (value : Json) : Except String Config := Document.config (.ofJson value)

/-- The written form of an account. -/
def Account.toJson (account : Account) : Json := .object [
  ("account_id", .string account.accountId),
  ("region", .string account.region),
  ("partition", .string account.partition),
  ("url_suffix", .string account.urlSuffix),
  ("notification_arns", .strings account.notificationArns)]

/-- The written form of a configuration. -/
def Config.toJson (config : Config) : Json := .object [
  ("stack_name", .string config.stackName),
  ("pseudo", config.account.toJson),
  ("retry", .object [
    ("max_attempts", .nat config.retry.maxAttempts),
    ("base_delay_ms", .nat config.retry.baseDelay),
    ("max_delay_ms", .nat config.retry.maxDelay)])]

/-- The configuration that a text describes. -/
def Config.ofText (text : String) : Except Failure Config :=
  ((do Document.config (← Toml.read text)) : Except String Config).mapError .toml

end Reconcile
