import ImageBatch.Backend.Basic
import ImageBatch.Number.Double

/-!
Trying again: failures that may pass are followed by another attempt after a growing delay, up to a number of
attempts.
-/

namespace ImageBatch

/-- How often an operation is tried and how long is waited in between. -/
structure RetryPolicy where
  /-- Attempts in all; none counts as one. -/
  maxAttempts : Nat := 5
  /-- The delay before the second attempt. -/
  initialDelay : Nat := Duration.ofSeconds 1
  /-- The longest delay that a growing delay reaches. -/
  maxDelay : Nat := Duration.ofSeconds 30
  /-- How much a delay grows from one attempt to the next. -/
  multiplier : Double := Double.ofInt 2
deriving DecidableEq, Repr

namespace RetryPolicy

/-- The delay after a delay: whole milliseconds, multiplied and cut off. -/
def nextDelay (policy : RetryPolicy) (current : Nat) : Nat :=
  let grown := ((Double.ofInt (Duration.toMillis current)).mul policy.multiplier).toNat64
  min (Duration.ofMillis grown) policy.maxDelay

/-- The delays from `current` on, each the next one of that before it. -/
def delaysFrom (policy : RetryPolicy) (current : Nat) : (further : Nat) → List Nat
  | 0 => [current]
  | further + 1 => current :: delaysFrom policy (policy.nextDelay current) further

end RetryPolicy

namespace Task

variable {Ask : Type} {Answer : Ask → Type} {α : Type}

/-- Attempt number `attempt`, which up to `left` others may follow, the next after `delay`. -/
def retryFrom (pause : Nat → Task Ask Answer Unit) (operation : String) (policy : RetryPolicy)
    (task : Task Ask Answer (Except BackendError α)) (attempt delay : Nat) :
    (left : Nat) → Task Ask Answer (Except BackendError α)
  | 0 => do
    match ← task with
    | .ok value => return .ok value
    | .error e =>
      return .error (if e.isTransient then .retriesExhausted operation attempt e else e)
  | left + 1 => do
    match ← task with
    | .ok value => return .ok value
    | .error e =>
      if e.isTransient then
        pause delay
        retryFrom pause operation policy task (attempt + 1) (policy.nextDelay delay) left
      else return .error e

/-- Tries a task until it succeeds, fails for good, or was tried as often as the policy allows. -/
def withRetry (pause : Nat → Task Ask Answer Unit) (operation : String) (policy : RetryPolicy)
    (task : Task Ask Answer (Except BackendError α)) : Task Ask Answer (Except BackendError α) :=
  retryFrom pause operation policy task 1 policy.initialDelay (policy.maxAttempts - 1)

end Task

end ImageBatch
