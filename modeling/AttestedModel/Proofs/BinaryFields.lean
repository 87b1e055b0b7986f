import Mathlib

/-!
# Sums of powers in characteristic two

A string of bits names an element of a ring of characteristic two: the sum of those
powers of a fixed element that the bits pick (`valueAt`).  Where the fixed element is
a root of a monic polynomial of the string's length, different strings name different
elements (`valueAt_injective`).

A polynomial over two elements whose degree is a power of two is irreducible if the
repeated square of its root comes back to the root at the degree, and differs from it
by a unit at half the degree (`irreducible_of_frobenius`).  Both are found by squaring
alone.
-/

namespace AttestedModel.Cipher

open Polynomial

section Values

variable {R : Type*} [CommRing R]

/-- The sum of the powers of `α` below `width` that the bits pick. -/
def valueAt (α : R) (width : ℕ) (bit : ℕ → Bool) : R :=
  ∑ i ∈ Finset.range width, if bit i then α ^ i else 0

variable {α : R} {width : ℕ}

/-- Only the bits below the width count. -/
theorem valueAt_congr {a b : ℕ → Bool} (h : ∀ i < width, a i = b i) :
    valueAt α width a = valueAt α width b :=
  Finset.sum_congr rfl fun i hi => by rw [h i (Finset.mem_range.mp hi)]

theorem valueAt_zero : valueAt α width (fun _ => false) = 0 := by
  simp [valueAt]

/-- One bit names one power. -/
theorem valueAt_single {n : ℕ} (h : n < width) : valueAt α width (fun i => i == n) = α ^ n := by
  simp [valueAt, Finset.sum_ite_eq', h]

/-- The first bit names one, and the rest a multiple of `α`. -/
theorem valueAt_succ (bit : ℕ → Bool) :
    valueAt α (width + 1) bit =
      (if bit 0 then 1 else 0) + α * valueAt α width (fun i => bit (i + 1)) := by
  rw [valueAt, Finset.sum_range_succ', add_comm, valueAt, Finset.mul_sum]
  congr 1
  · simp
  · refine Finset.sum_congr rfl fun i _ => ?_
    split
    · rw [pow_succ']
    · rw [mul_zero]

/-- Multiplying by `α` moves the bits up by one place, and the last one out. -/
theorem mul_valueAt (bit : ℕ → Bool) :
    α * valueAt α (width + 1) bit =
      valueAt α (width + 1) (fun i => 0 < i && bit (i - 1)) +
        if bit width then α ^ (width + 1) else 0 := by
  have hshift : valueAt α (width + 1) (fun i => 0 < i && bit (i - 1)) =
      α * valueAt α width bit := by
    rw [valueAt_succ]
    simp
  rw [hshift, valueAt, Finset.sum_range_succ, ← valueAt, mul_add]
  congr 1
  split
  · rw [pow_succ']
  · rw [mul_zero]

variable [CharP R 2]

/-- Bits that are added without carry name the sum. -/
theorem valueAt_xor (a b : ℕ → Bool) :
    valueAt α width (fun i => a i ^^ b i) = valueAt α width a + valueAt α width b := by
  rw [valueAt, valueAt, valueAt, ← Finset.sum_add_distrib]
  refine Finset.sum_congr rfl fun i _ => ?_
  cases a i <;> cases b i <;> simp [CharTwo.add_self_eq_zero]

/-- The Frobenius map moves only the root. -/
theorem valueAt_pow (n : ℕ) (bit : ℕ → Bool) :
    valueAt α width bit ^ 2 ^ n = valueAt (α ^ 2 ^ n) width bit := by
  have hprime : Fact (Nat.Prime 2) := ⟨Nat.prime_two⟩
  rw [valueAt, sum_pow_char_pow, valueAt]
  refine Finset.sum_congr rfl fun i _ => ?_
  split
  · rw [← pow_mul, ← pow_mul, mul_comm]
  · exact zero_pow (by positivity)

omit [CharP R 2] in
/-- Repeated squares of what names elements name powers. -/
theorem map_squares {A : Type*} {mul : A → A → A} {value : A → R}
    (hmul : ∀ x y, value (mul x y) = value x * value y) (n : ℕ) (x : A) :
    value ((fun y => mul y y)^[n] x) = value x ^ 2 ^ n := by
  induction n with
  | zero => simp
  | succ n ih =>
      rw [Function.iterate_succ_apply', hmul, ih]
      ring

end Values

section Roots

variable {P : (ZMod 2)[X]}

/-- In the quotient by a polynomial that is no constant, two is zero. -/
theorem charP_adjoinRoot (h : 0 < P.natDegree) : CharP (AdjoinRoot P) 2 := by
  have hdegree : P.degree ≠ 0 := (natDegree_pos_iff_degree_pos.mp h).ne'
  have hnontrivial : Nontrivial (AdjoinRoot P) := AdjoinRoot.nontrivial P hdegree
  exact charP_of_injective_algebraMap (algebraMap (ZMod 2) (AdjoinRoot P)).injective 2

/-- What stands behind the leading term of the polynomial is what the power of the root is. -/
theorem root_pow_eq [CharP (AdjoinRoot P) 2] {width : ℕ} {rest : (ZMod 2)[X]}
    (h : P = X ^ width + rest) : AdjoinRoot.root P ^ width = AdjoinRoot.mk P rest := by
  have hself := congrArg (AdjoinRoot.mk P) h
  rw [AdjoinRoot.mk_self, map_add, map_pow, AdjoinRoot.mk_X] at hself
  exact CharTwo.add_eq_zero.mp hself.symm

/-- Different strings name different elements, if the polynomial has their length for its
degree. -/
theorem valueAt_injective (hmonic : P.Monic) {width : ℕ} (hdegree : P.natDegree = width)
    {a b : ℕ → Bool}
    (h : valueAt (AdjoinRoot.root P) width a = valueAt (AdjoinRoot.root P) width b) :
    ∀ i < width, a i = b i := by
  subst hdegree
  -- the difference of both is a multiple of the polynomial, but of smaller degree
  let written (bit : ℕ → Bool) : (ZMod 2)[X] :=
    ∑ i ∈ Finset.range P.natDegree, if bit i then X ^ i else 0
  have hvalue : ∀ bit, AdjoinRoot.mk P (written bit) =
      valueAt (AdjoinRoot.root P) P.natDegree bit := by
    intro bit
    rw [map_sum, valueAt]
    refine Finset.sum_congr rfl fun i _ => ?_
    split <;> simp
  have hcoeff : ∀ bit i, (written bit).coeff i =
      if i < P.natDegree ∧ bit i then 1 else 0 := by
    intro bit i
    simp only [written, finsetSum_coeff, apply_ite (coeff · i), coeff_X_pow, coeff_zero]
    by_cases hi : i < P.natDegree
    · rw [Finset.sum_eq_single i (fun j _ hj => by simp [Ne.symm hj])
        (fun hout => absurd (Finset.mem_range.mpr hi) hout)]
      simp [hi]
    · refine (Finset.sum_eq_zero fun j hj => ?_).trans (by simp [hi])
      have hne : i ≠ j := fun heq => hi (heq ▸ Finset.mem_range.mp hj)
      simp [hne]
  have hsmall : (written a - written b).degree < P.degree := by
    rw [degree_eq_natDegree hmonic.ne_zero, degree_lt_iff_coeff_zero]
    intro i hi
    simp [hcoeff, Nat.not_lt.mpr hi]
  have hdvd : P ∣ written a - written b := by
    rw [← AdjoinRoot.mk_eq_zero, map_sub, hvalue, hvalue, h, sub_self]
  have hequal : written a = written b :=
    sub_eq_zero.mp (eq_zero_of_dvd_of_degree_lt hdvd hsmall)
  intro i hi
  have hbits := hcoeff a i
  rw [hequal, hcoeff b i] at hbits
  revert hbits
  cases a i <;> cases b i <;> simp [hi]

/-- **A test for irreducibility.**  The degree is a power of two.  Squaring the root as often as
the degree says gives the root, and half as often gives what differs from it by a unit. -/
theorem irreducible_of_frobenius {n : ℕ} (hdegree : P.natDegree = 2 ^ (n + 1))
    (hfixed : AdjoinRoot.root P ^ 2 ^ 2 ^ (n + 1) = AdjoinRoot.root P)
    (hmoved : IsUnit (AdjoinRoot.root P ^ 2 ^ 2 ^ n - AdjoinRoot.root P)) : Irreducible P := by
  have hpositive : 0 < P.natDegree := by
    rw [hdegree]
    positivity
  have hmk : ∀ m, AdjoinRoot.mk P (X ^ m - X) = AdjoinRoot.root P ^ m - AdjoinRoot.root P := by
    intro m
    rw [map_sub, map_pow, AdjoinRoot.mk_X]
  have hfactor : ∀ Q : (ZMod 2)[X], Irreducible Q → Q ∣ P → Q.natDegree = 2 ^ (n + 1) := by
    intro Q hQ hQP
    have hdvd : Q ∣ X ^ 2 ^ 2 ^ (n + 1) - X := by
      refine hQP.trans ?_
      rw [← AdjoinRoot.mk_eq_zero, hmk, hfixed, sub_self]
    have hpower : Q.natDegree ∣ 2 ^ (n + 1) := by
      refine hQ.natDegree_dvd_of_dvd_X_pow_card_pow_sub_X ?_
      rw [Nat.card_zmod]
      exact hdvd
    obtain ⟨j, hj, hQdegree⟩ := (Nat.dvd_prime_pow Nat.prime_two).mp hpower
    rcases Nat.lt_or_eq_of_le hj with hless | hfull
    · -- a factor of a smaller degree would divide a unit
      have hhalf : Q ∣ X ^ 2 ^ 2 ^ n - X := by
        have hdividing : Q.natDegree ∣ 2 ^ n := by
          rw [hQdegree]
          exact Nat.pow_dvd_pow 2 (by omega)
        have hcard := hQ.natDegree_dvd_iff_dvd_X_pow_card_pow_sub_X.mp hdividing
        rwa [Nat.card_zmod] at hcard
      obtain ⟨w, hw⟩ := hmoved.exists_right_inv
      obtain ⟨W, rfl⟩ := AdjoinRoot.mk_surjective w
      have hone : P ∣ (X ^ 2 ^ 2 ^ n - X) * W - 1 := by
        rw [← AdjoinRoot.mk_eq_zero, map_sub, map_mul, hmk, hw, map_one, sub_self]
      have hunit : Q ∣ 1 := (dvd_sub_right (hhalf.mul_right W)).mp (hQP.trans hone)
      exact absurd (isUnit_of_dvd_one hunit) hQ.not_isUnit
    · rw [hQdegree, hfull]
  have hnonzero : P ≠ 0 := ne_zero_of_natDegree_gt hpositive
  obtain ⟨Q, hQ, hQP⟩ := WfDvdMonoid.exists_irreducible_factor
    (not_isUnit_of_natDegree_pos P hpositive) hnonzero
  have hassociated : Associated Q P :=
    associated_of_dvd_of_natDegree_le hQP hnonzero (by rw [hfactor Q hQ hQP, hdegree])
  exact hassociated.irreducible hQ

end Roots

end AttestedModel.Cipher
