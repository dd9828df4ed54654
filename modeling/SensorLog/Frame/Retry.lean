import SensorLog.Packet.Order
import SensorLog.Trace.Event

/-!
# Retrying a corrupt frame

Some links deliver packets out of order. A payload that fails to decode is read again under the
packet orders of a `RetryPlan`: after `k` failures under the order at position `k` modulo their
number, so that the last retry comes back to the first order. One failure more than there are orders
is final.
-/

namespace SensorLog

/-- The packet orders to try. -/
structure RetryPlan where
  orders : List PacketOrder
deriving DecidableEq

namespace RetryPlan

/-- No retry at all. -/
def disabled : RetryPlan := ⟨[]⟩

/-- Arrival order and the two exchanges of neighbours among three packets. -/
def default : RetryPlan :=
  ⟨[.identity 3, (PacketOrder.identity 3).swapped 1 2, (PacketOrder.identity 3).swapped 0 1]⟩

/-- The number of attempts on one payload before it is given up. -/
def maxAttempts (p : RetryPlan) : Nat :=
  p.orders.length + 1

end RetryPlan

/-- A retry plan with the failures on the current payload. -/
structure Retries where
  plan : RetryPlan
  failures : Nat := 0
deriving DecidableEq

/-- What follows a failure. -/
inductive RetryAction
  /-- The payload is to be read again. -/
  | again (attempt : Nat)
  /-- Every order has failed. -/
  | exhausted (attempts : Nat)
deriving DecidableEq, Repr

namespace Retries

/-- The order of the next attempt; none is arrival order. -/
def order? (r : Retries) : Option PacketOrder :=
  if r.failures = 0 then none
  else r.plan.orders[r.failures % max r.plan.orders.length 1]?

/-- One failure more. -/
def fail (r : Retries) : Retries :=
  { r with failures := r.failures + 1 }

/-- What follows when this many failures have been counted. -/
def action (r : Retries) : RetryAction :=
  if r.plan.orders.length < r.failures then .exhausted r.failures else .again r.failures

/-- The events of a failure that has just been counted. -/
def failEvents (r : Retries) : List Event :=
  match r.action with
  | .again attempt => [.retry attempt (r.order?.map (·.indices))]
  | .exhausted _ => []

/-- No failures on the next payload. -/
def reset (r : Retries) : Retries :=
  { r with failures := 0 }

/-- The number of failures that a success makes up for, if there were any. -/
def recovered? (r : Retries) : Option Nat :=
  if r.failures = 0 then none else some r.failures

/-- The events of a success. -/
def successEvents (r : Retries) : List Event :=
  match r.recovered? with
  | none => []
  | some failures => [.recovered failures]

@[simp] theorem failures_fail (r : Retries) : r.fail.failures = r.failures + 1 := rfl

theorem action_eq_again_iff {r : Retries} :
    r.action = .again r.failures ↔ r.failures ≤ r.plan.orders.length := by
  unfold action
  split
  · simp; omega
  · simp; omega

end Retries

end SensorLog
