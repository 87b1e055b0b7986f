import AttestedModel.Cipher.Gcm
import AttestedModel.Proofs.BinaryFields

/-!
# The field of blocks

A block names an element of the binary polynomials modulo
`X ^ 128 + X ^ 7 + X ^ 2 + X + 1`, its first bit the constant term.  Products of
blocks name products (`value_mul`) and different blocks name different elements
(`value_injective`).  The modulus is irreducible, by the test on repeated squares, and
so a product with a block other than zero can be undone (`mul_right_cancel`).
-/

namespace AttestedModel.Cipher.Ghash

open Polynomial

/-- The modulus with its leading term. -/
noncomputable def polynomial : (ZMod 2)[X] :=
  X ^ 128 + X ^ 7 + X ^ 2 + X + 1

/-- The degree of the modulus is the number of bits of a block. -/
theorem natDegree_polynomial : polynomial.natDegree = 128 := by
  unfold polynomial
  compute_degree!

theorem monic_polynomial : polynomial.Monic := by
  unfold polynomial
  monicity!

instance : CharP (AdjoinRoot polynomial) 2 :=
  charP_adjoinRoot (by rw [natDegree_polynomial]; decide)

/-- The root of the modulus. -/
noncomputable def root : AdjoinRoot polynomial :=
  AdjoinRoot.root polynomial

/-- At the root, the leading term is the sum of the others. -/
theorem root_pow : root ^ 128 = root ^ 7 + root ^ 2 + root + 1 := by
  have hwritten : polynomial = X ^ 128 + (X ^ 7 + X ^ 2 + X + 1) := by
    unfold polynomial
    simp only [add_assoc]
  rw [root, root_pow_eq hwritten]
  simp only [map_add, map_pow, map_one, AdjoinRoot.mk_X]

/-- The element that a block names. -/
noncomputable def value (b : Block) : AdjoinRoot polynomial :=
  valueAt root 128 b.getMsbD

@[simp] theorem value_zero : value 0#128 = 0 := by
  refine (valueAt_congr fun i _ => ?_).trans valueAt_zero
  simp

/-- Sums of blocks name sums. -/
@[simp] theorem value_xor (x y : Block) : value (x ^^^ y) = value x + value y := by
  rw [value, value, value, ← valueAt_xor]
  exact valueAt_congr fun i _ => by rw [BitVec.getMsbD_xor]

/-- **Different blocks name different elements.** -/
theorem value_injective {x y : Block} (h : value x = value y) : x = y := by
  have hbits := valueAt_injective monic_polynomial natDegree_polynomial h
  exact BitVec.eq_of_getMsbD_eq hbits

/-- What is added for a bit that is shifted out names the power that was lost. -/
theorem value_modulus : value modulus = root ^ 128 := by
  have hbits : ∀ i < 128, modulus.getMsbD i = (((i == 7) ^^ (i == 2)) ^^ (i == 1) ^^ (i == 0)) := by
    decide
  rw [value, valueAt_congr hbits, valueAt_xor, valueAt_xor, valueAt_xor,
    valueAt_single (by decide), valueAt_single (by decide), valueAt_single (by decide),
    valueAt_single (by decide), root_pow]
  ring

/-- A shift by one bit multiplies with the root. -/
theorem value_timesX (v : Block) : value (timesX v) = root * value v := by
  have hlast : v.getLsbD 0 = v.getMsbD 127 := by
    rw [BitVec.getLsbD_eq_getMsbD]
    simp
  have hshift : value (v >>> 1) = valueAt root 128 (fun i => 0 < i && v.getMsbD (i - 1)) := by
    refine valueAt_congr fun i hi => ?_
    rw [BitVec.getMsbD_ushiftRight]
    cases i <;> simp [hi]
  rw [value.eq_def v, mul_valueAt, ← hshift, timesX, hlast]
  split
  · rw [value_xor, value_modulus]
  · rw [add_zero]

/-- The sum of the multiples that the bits pick names the product with their element. -/
theorem value_combine (count : Nat) (v x : Block) :
    value (combine (multiples count v) x) = valueAt root count x.getMsbD * value v := by
  induction count generalizing v x with
  | zero => simp [multiples, combine, valueAt]
  | succ count ih =>
      have hrest : valueAt root count (x <<< 1).getMsbD =
          valueAt root count fun i => x.getMsbD (i + 1) := by
        refine valueAt_congr fun i _ => ?_
        rw [BitVec.getMsbD_shiftLeft]
      rw [multiples, combine, value_xor, ih, value_timesX, hrest, valueAt_succ, add_mul,
        ← BitVec.msb_eq_getMsbD_zero]
      congr 1
      · split <;> simp
      · ring

/-- **Products of blocks name products.** -/
theorem value_mul (x y : Block) : value (mul x y) = value x * value y :=
  value_combine 128 y x

/-- The block that names one. -/
def one : Block := 0x80000000000000000000000000000000#128

/-- The block that names the root. -/
def rootBlock : Block := 0x40000000000000000000000000000000#128

/-- The root, squared 64 times. -/
def halfway : Block := 0x6f9945a9e519a7229d4c1ad657f8a686#128

/-- What the difference of the two is multiplied with to give one. -/
def halfwayInverse : Block := 0x180da934bf53158251c13dbb149f5279#128

theorem value_one : value one = 1 := by
  have hbits : ∀ i < 128, one.getMsbD i = (i == 0) := by decide
  rw [value, valueAt_congr hbits, valueAt_single (by decide), pow_zero]

/-- A block with its second bit alone names the root. -/
theorem value_rootBlock : value rootBlock = root := by
  have hbits : ∀ i < 128, rootBlock.getMsbD i = (i == 1) := by decide
  rw [value, valueAt_congr hbits, valueAt_single (by decide), pow_one]

/-- Repeated squares of blocks name repeated squares. -/
theorem value_squares (n : Nat) (x : Block) :
    value ((fun y => mul y y)^[n] x) = value x ^ 2 ^ n :=
  map_squares value_mul n x

/-- Squared 64 times, the root is the block halfway. -/
theorem squares_rootBlock : (fun y => mul y y)^[64] rootBlock = halfway := by
  decide +kernel

/-- Squared 64 times more, the block halfway is the root again. -/
theorem squares_halfway : (fun y => mul y y)^[64] halfway = rootBlock := by
  decide +kernel

/-- The block halfway differs from the root by a block that has an inverse. -/
theorem mul_halfwayInverse : mul (halfway ^^^ rootBlock) halfwayInverse = one := by
  decide +kernel

/-- **The modulus is irreducible.** -/
theorem irreducible_polynomial : Irreducible polynomial := by
  have hhalf : root ^ 2 ^ 64 = value halfway := by
    rw [← value_rootBlock, ← value_squares, squares_rootBlock]
  have hfull : root ^ 2 ^ 128 = root := by
    calc root ^ 2 ^ 128 = (root ^ 2 ^ 64) ^ 2 ^ 64 := by rw [← pow_mul, ← pow_add]
      _ = value rootBlock := by rw [hhalf, ← value_squares, squares_halfway]
      _ = root := value_rootBlock
  have hunit : IsUnit (root ^ 2 ^ 64 - root) := by
    refine .of_mul_eq_one (value halfwayInverse) ?_
    rw [hhalf, CharTwo.sub_eq_add, ← value_one, ← mul_halfwayInverse, value_mul, value_xor,
      value_rootBlock]
  have hdegree : polynomial.natDegree = 2 ^ (6 + 1) := natDegree_polynomial
  exact irreducible_of_frobenius hdegree hfull hunit

/-- A product with a block other than zero tells the other factor. -/
theorem mul_right_cancel {h x y : Block} (hne : h ≠ 0) (heq : mul x h = mul y h) : x = y := by
  have hirreducible : Fact (Irreducible polynomial) := ⟨irreducible_polynomial⟩
  have hvalue : value h ≠ 0 := fun hzero =>
    hne (value_injective (hzero.trans value_zero.symm))
  have hproduct : value x * value h = value y * value h := by
    rw [← value_mul, ← value_mul, heq]
  exact value_injective (mul_right_cancel₀ hvalue hproduct)

end AttestedModel.Cipher.Ghash
