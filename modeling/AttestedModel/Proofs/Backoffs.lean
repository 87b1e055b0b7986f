import Mathlib.Algebra.Order.BigOperators.Group.List
import AttestedModel.RetryPolicy

/-!
# The law of backoffs

The wait after an attempt is the first wait times a power of the multiplier, and at
most the longest wait.  The power saturates in 32 bits and the product in the range
of durations.  The longest wait hides the second saturation, since it is a duration
itself, but not always the first one (`nanos_backoffAfter`): the wait is that of the
formula exactly if the power does not saturate, or the first wait is zero, or even
the saturated power leads to the longest wait (`backoffAfter_eq_exponential_iff`).

Saturated or not, waits grow with everything that they depend on
(`backoffAfter_mono`).
-/

namespace AttestedModel.RetryPolicy

/-- The factor by which the wait after an attempt exceeds the first one. -/
def growth (policy : RetryPolicy) (attempt : Nat) : Nat :=
  (max 1 policy.multiplier.toNat) ^ (attempt - 1)

/-- The wait after an attempt by the formula, in nanoseconds and without any saturation. -/
def exponentialNanos (policy : RetryPolicy) (attempt : Nat) : Nat :=
  min (policy.initialBackoff.nanos * policy.growth attempt) policy.maxBackoff.nanos

/-- A saturating power is the power, or the greatest word if that is less. -/
theorem saturatingPower_eq {base : Nat} (h : 1 ≤ base) (exponent : Nat) :
    saturatingPower base exponent = min (base ^ exponent) greatestWord := by
  show min (base ^ min exponent 32) greatestWord = _
  rcases Nat.le_total exponent 32 with hfew | hmany
  · rw [Nat.min_eq_left hfew]
  · rw [Nat.min_eq_right hmany]
    rcases Nat.eq_or_lt_of_le h with rfl | hbase
    · rw [one_pow, one_pow]
    · have hgreatest : greatestWord ≤ base ^ 32 := calc
        greatestWord ≤ 2 ^ 32 := Nat.sub_le ..
        _ ≤ base ^ 32 := Nat.pow_le_pow_left hbase 32
      have hlarger : base ^ 32 ≤ base ^ exponent := Nat.pow_le_pow_right h hmany
      rw [Nat.min_eq_right hgreatest, Nat.min_eq_right (hgreatest.trans hlarger)]

/-- **The wait after an attempt.**  Only the saturation of the power can be seen. -/
theorem nanos_backoffAfter (policy : RetryPolicy) (attempt : Nat) :
    (policy.backoffAfter attempt).nanos =
      min (policy.initialBackoff.nanos * min (policy.growth attempt) greatestWord)
        policy.maxBackoff.nanos := by
  rw [backoffAfter, saturatingPower_eq (Nat.le_max_left ..), Duration.nanos_atMost,
    Duration.nanos_times, Nat.min_assoc, Nat.min_eq_right policy.maxBackoff.le_greatest]
  rfl

/-- The factor of a wait grows with the multiplier and with the number of the attempt. -/
theorem growth_mono {p q : RetryPolicy} {m n : Nat} (hmultiplier : p.multiplier ≤ q.multiplier)
    (hattempt : m ≤ n) : p.growth m ≤ q.growth n := by
  have hbase : max 1 p.multiplier.toNat ≤ max 1 q.multiplier.toNat :=
    max_le_max_left 1 (UInt32.le_iff_toNat_le.mp hmultiplier)
  calc
    p.growth m ≤ (max 1 q.multiplier.toNat) ^ (m - 1) := Nat.pow_le_pow_left hbase _
    _ ≤ q.growth n :=
      Nat.pow_le_pow_right (Nat.le_max_left ..) (Nat.sub_le_sub_right hattempt 1)

/-- **Waits grow with all that they depend on**: the first wait, the multiplier, the longest wait
and the number of the attempt. -/
theorem backoffAfter_mono {p q : RetryPolicy} {m n : Nat}
    (hinitial : p.initialBackoff.nanos ≤ q.initialBackoff.nanos)
    (hmultiplier : p.multiplier ≤ q.multiplier)
    (hlongest : p.maxBackoff.nanos ≤ q.maxBackoff.nanos) (hattempt : m ≤ n) :
    (p.backoffAfter m).nanos ≤ (q.backoffAfter n).nanos := by
  rw [nanos_backoffAfter, nanos_backoffAfter]
  have hgrowth : p.growth m ≤ q.growth n := growth_mono hmultiplier hattempt
  exact min_le_min (Nat.mul_le_mul hinitial (min_le_min_right _ hgrowth)) hlongest

/-- No wait is longer than the longest. -/
theorem backoffAfter_le_max (policy : RetryPolicy) (attempt : Nat) :
    (policy.backoffAfter attempt).nanos ≤ policy.maxBackoff.nanos := by
  rw [nanos_backoffAfter]
  exact Nat.min_le_right ..

/-- **Where the formula holds.**  The wait after an attempt never exceeds the formula.  It is that
of the formula if and only if the power stays within 32 bits, or the first wait is zero, or the
greatest 32-bit factor is enough to reach the longest wait. -/
theorem backoffAfter_eq_exponential_iff (policy : RetryPolicy) (attempt : Nat) :
    (policy.backoffAfter attempt).nanos ≤ policy.exponentialNanos attempt ∧
    ((policy.backoffAfter attempt).nanos = policy.exponentialNanos attempt ↔
      policy.growth attempt ≤ greatestWord ∨ policy.initialBackoff.nanos = 0 ∨
        policy.maxBackoff.nanos ≤ policy.initialBackoff.nanos * greatestWord) := by
  rw [nanos_backoffAfter, exponentialNanos]
  generalize policy.initialBackoff.nanos = first
  generalize policy.maxBackoff.nanos = longest
  generalize policy.growth attempt = factor
  have hle : first * min factor greatestWord ≤ first * factor :=
    Nat.mul_le_mul_left first (Nat.min_le_left ..)
  refine ⟨min_le_min_right longest hle, ?_⟩
  rcases le_or_gt factor greatestWord with hfits | hsaturates
  · rw [Nat.min_eq_left hfits]
    exact iff_of_true rfl (.inl hfits)
  · rw [Nat.min_eq_right hsaturates.le]
    rcases Nat.eq_zero_or_pos first with rfl | hfirst
    · simp
    · have hlost : first * greatestWord < first * factor :=
        Nat.mul_lt_mul_of_pos_left hsaturates hfirst
      omega

/-- One nanosecond, doubled after each attempt. -/
def doublingNanosecond : RetryPolicy :=
  { maxAttempts := 50, initialBackoff := .ofNanos 1, maxBackoff := .ofParts 3600 0,
    multiplier := 2 }

/-- After 34 attempts the formula says eight seconds and a half, but the wait is half of that. -/
theorem backoffAfter_below_exponential :
    doublingNanosecond.exponentialNanos 34 = 8589934592 ∧
      (doublingNanosecond.backoffAfter 34).nanos = 4294967295 := by
  decide

end AttestedModel.RetryPolicy
