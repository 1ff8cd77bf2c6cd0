import Reconcile.Table

/-!
# Metrics and padding

What is counted for every type of resource during a run, and the time until which a run has to
last.
-/

namespace Reconcile

/-- What is counted for a type of resource. -/
structure TypeMetrics where
  /-- The operations, successful or not. -/
  operations : Nat := 0
  /-- The calls, repeated ones included. -/
  attempts : Nat := 0
  /-- The calls after the first of each operation. -/
  retries : Nat := 0
  /-- The operations that failed in the end. -/
  failures : Nat := 0
  /-- The time taken by all operations, in milliseconds. -/
  duration : Nat := 0
  deriving DecidableEq, Repr, Inhabited

/-- What is counted for every type. -/
abbrev Metrics := Table TypeMetrics

/-- Count an operation. -/
def TypeMetrics.count (m : TypeMetrics) (attempts duration : Nat) (succeeded : Bool) : TypeMetrics where
  operations := m.operations + 1
  attempts := m.attempts + attempts
  retries := m.retries + (attempts - 1)
  failures := m.failures + if succeeded then 0 else 1
  duration := m.duration + duration

/-- Count an operation on a resource of a type. -/
def Metrics.record (metrics : Metrics) (type : String) (attempts duration : Nat) (succeeded : Bool) : Metrics :=
  metrics.insert type (((metrics.get? type).getD {}).count attempts duration succeeded)

/-- The time until which a run has to last, if any padding has been asked for. -/
abbrev Padding := Option Nat

namespace Padding

/-- Ask for some padding from now on; of two times the later one counts. -/
def register (deadline : Padding) (now padding : Nat) : Padding :=
  some (max (deadline.getD 0) (now + padding))

/-- The time after waiting for the padding. -/
def wait (deadline : Padding) (now : Nat) : Nat := max now (deadline.getD 0)

/-- The time still to wait, if any padding has been asked for. -/
def left (deadline : Padding) (now : Nat) : Option Nat := deadline.map (· - now)

end Padding

end Reconcile
