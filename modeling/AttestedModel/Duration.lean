/-!
# Spans of time

A duration counts nanoseconds below `2 ^ 64` seconds.  Multiplication saturates
at the greatest duration.  `milliseconds` is how long a timer of that duration
runs: the clock ticks in whole milliseconds, and no timer fires early.  The clock
has no last moment, so every timer runs out at one.
-/

namespace AttestedModel

/-- Nanoseconds in a second. -/
def nanosPerSecond : Nat := 1000000000

/-- The greatest count of nanoseconds. -/
def greatestNanos : Nat := Nat.pow 2 64 * nanosPerSecond - 1

/-- A span of time. -/
structure Duration where
  nanos : Nat
  le_greatest : nanos ≤ greatestNanos
deriving DecidableEq

namespace Duration

/-- The duration of `n` nanoseconds, or the greatest one. -/
def ofNanos (n : Nat) : Duration :=
  ⟨min n greatestNanos, Nat.min_le_right ..⟩

/-- The duration of so many seconds and nanoseconds, or the greatest one. -/
def ofParts (seconds nanos : Nat) : Duration :=
  ofNanos (seconds * nanosPerSecond + nanos)

/-- The duration of so many milliseconds. -/
def ofMillis (n : Nat) : Duration :=
  ofNanos (n * 1000000)

/-- No time at all. -/
def zero : Duration := ofNanos 0

/-- The whole seconds. -/
def seconds (d : Duration) : Nat :=
  d.nanos / nanosPerSecond

/-- The nanoseconds past the last whole second. -/
def subsecond (d : Duration) : Nat :=
  d.nanos % nanosPerSecond

/-- The product, or the greatest duration. -/
def times (d : Duration) (factor : Nat) : Duration :=
  ofNanos (d.nanos * factor)

/-- The shorter of two durations. -/
def atMost (d limit : Duration) : Duration :=
  if d.nanos ≤ limit.nanos then d else limit

/-- A product counts as many nanoseconds as there are, up to the greatest count. -/
theorem nanos_times (d : Duration) (factor : Nat) :
    (d.times factor).nanos = min (d.nanos * factor) greatestNanos :=
  rfl

/-- The shorter duration has the smaller count. -/
theorem nanos_atMost (d limit : Duration) :
    (d.atMost limit).nanos = min d.nanos limit.nanos := by
  unfold atMost
  split
  · rw [Nat.min_eq_left ‹_›]
  · rw [Nat.min_eq_right (Nat.le_of_not_le ‹_›)]

/-- The shorter one of a duration and a limit, if there is a limit. -/
def upTo (d : Duration) : (limit : Option Duration) → Duration
  | some limit => d.atMost limit
  | none => d

/-- Years of 365 days. -/
def ofYears (n : Nat) : Duration :=
  ofParts (n * 365 * 86400) 0

/-- Milliseconds that a timer of this duration runs, rounded up. -/
def milliseconds (d : Duration) : Nat :=
  (d.nanos + 999999) / 1000000

/-- No limit makes something of no time. -/
theorem milliseconds_upTo_of_nanos_eq_zero {d : Duration} (limit : Option Duration)
    (h : d.nanos = 0) : (d.upTo limit).milliseconds = 0 := by
  cases limit with
  | none => simp [upTo, milliseconds, h]
  | some limit => simp [upTo, milliseconds, nanos_atMost, h]

/-- A timer of whole milliseconds runs for just as many. -/
theorem milliseconds_of_nanos_eq {d : Duration} {millis : Nat} (h : d.nanos = millis * 1000000) :
    d.milliseconds = millis := by
  rw [milliseconds, h]
  omega

end Duration

end AttestedModel
