import AttestedModel.Duration

/-!
# Retry policies

How often a transfer is attempted and how long it waits after an attempt that
could not connect: the first wait, multiplied anew after each attempt, and never
more than a longest wait.  The power of the multiplier saturates in 32 bits and
the product in the range of durations.
-/

namespace AttestedModel

/-- The greatest 32-bit number. -/
def greatestWord : Nat := Nat.pow 2 32 - 1

/-- The number of attempts and the waits between them. -/
structure RetryPolicy where
  maxAttempts : UInt32
  initialBackoff : Duration
  maxBackoff : Duration
  multiplier : UInt32
deriving DecidableEq

namespace RetryPolicy

/-- Three attempts; waits of 200 ms, doubled up to 2 s. -/
def standard : RetryPolicy :=
  { maxAttempts := 3, initialBackoff := .ofMillis 200, maxBackoff := .ofMillis 2000,
    multiplier := 2 }

/-- So many attempts without waits. -/
def immediate (attempts : UInt32) : RetryPolicy :=
  { maxAttempts := attempts, initialBackoff := .zero, maxBackoff := .zero, multiplier := 1 }

/-- The number of attempts, at least one. -/
def attempts (policy : RetryPolicy) : Nat :=
  max 1 policy.maxAttempts.toNat

/-- `base ^ exponent`, or the greatest 32-bit number.  A base above one passes that number with
32 factors, so no more are multiplied. -/
def saturatingPower (base exponent : Nat) : Nat :=
  min (Nat.pow base (min exponent 32)) greatestWord

/-- The wait after the attempt of this number, counted from one. -/
def backoffAfter (policy : RetryPolicy) (attempt : Nat) : Duration :=
  let factor := saturatingPower (max 1 policy.multiplier.toNat) (attempt - 1)
  (policy.initialBackoff.times factor).atMost policy.maxBackoff

end RetryPolicy

end AttestedModel
