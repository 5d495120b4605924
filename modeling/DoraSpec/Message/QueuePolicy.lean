import Mathlib.Algebra.Order.Ring.Nat

/-!
# Queue overflow policies

Source `libraries/message/src/config.rs:25-50`. Sizes are 64-bit `usize` values.
-/

namespace DoraSpec.Message

/-- Largest `usize` on the supported 64-bit targets. -/
def usizeMax : Nat := 2 ^ 64 - 1

/-- Queue size of an input without a configured one; `config.rs:26`. -/
def defaultQueueSize : Nat := 10

/-- Overflow policy of an input; `config.rs:29-37`. -/
inductive QueuePolicy where
  | dropOldest
  | backpressure
  deriving DecidableEq

/-- The default drops the oldest queued message; `config.rs:33`. -/
instance : Inhabited QueuePolicy := ⟨.dropOldest⟩

/-- Capacity in force for a configured size; `effective_cap`, `config.rs:44-49`. -/
def QueuePolicy.effectiveCap (policy : QueuePolicy) (queueSize : Nat) : Nat :=
  match policy with
  | .dropOldest => queueSize
  | .backpressure => max (min (queueSize * 10) usizeMax) 100

end DoraSpec.Message
