import AttestedModel.Cipher.Aes
import AttestedModel.Proofs.BinaryFields

/-!
# The field of bytes

A byte names an element of the binary polynomials modulo `X ^ 8 + X ^ 4 + X ^ 3 + X + 1`,
its lowest bit the constant term.  Products of bytes name products (`value_fieldMul`),
and eight squares change nothing, so that the power 254 of a byte is its inverse
(`fieldInverse_of_mul`).  This gives the substitution by a table (`substitute_eq`), and
with the key schedule as a loop (`expand_eq_iterate`) the cipher can be worked out.
-/

namespace AttestedModel.Cipher.Aes

open Polynomial

/-- The modulus. -/
noncomputable def polynomial : (ZMod 2)[X] :=
  X ^ 8 + X ^ 4 + X ^ 3 + X + 1

/-- The degree of the modulus is the number of bits of a byte. -/
theorem natDegree_polynomial : polynomial.natDegree = 8 := by
  unfold polynomial
  compute_degree!

theorem monic_polynomial : polynomial.Monic := by
  unfold polynomial
  monicity!

instance : CharP (AdjoinRoot polynomial) 2 :=
  charP_adjoinRoot (by rw [natDegree_polynomial]; decide)

/-- The root of the modulus. -/
noncomputable def root : AdjoinRoot polynomial :=
  AdjoinRoot.root polynomial

/-- At the root, the leading term is the sum of the others. -/
theorem root_pow : root ^ 8 = root ^ 4 + root ^ 3 + root + 1 := by
  have hwritten : polynomial = X ^ 8 + (X ^ 4 + X ^ 3 + X + 1) := by
    unfold polynomial
    simp only [add_assoc]
  rw [root, root_pow_eq hwritten]
  simp only [map_add, map_pow, map_one, AdjoinRoot.mk_X]

/-- The bits of a byte, lowest first. -/
def bit (b : UInt8) (i : Nat) : Bool :=
  b.toBitVec.getLsbD i

/-- The element that a byte names. -/
noncomputable def value (b : UInt8) : AdjoinRoot polynomial :=
  valueAt root 8 (bit b)

@[simp] theorem value_zero : value 0 = 0 := by
  refine (valueAt_congr fun i _ => ?_).trans valueAt_zero
  simp [bit]

@[simp] theorem value_one : value 1 = 1 := by
  have hbits : ∀ i < 8, bit 1 i = (i == 0) := by decide
  rw [value, valueAt_congr hbits, valueAt_single (by decide), pow_zero]

/-- Sums of bytes name sums. -/
@[simp] theorem value_xor (a b : UInt8) : value (a ^^^ b) = value a + value b := by
  rw [value, value, value, ← valueAt_xor]
  exact valueAt_congr fun i _ => by simp [bit]

/-- **Different bytes name different elements.** -/
theorem value_injective {a b : UInt8} (h : value a = value b) : a = b := by
  have hbits := valueAt_injective monic_polynomial natDegree_polynomial h
  exact UInt8.toBitVec_inj.mp (BitVec.eq_of_getLsbD_eq hbits)

/-- A mask of one bit tells the bit. -/
theorem and_eq_zero_iff {b mask : UInt8} {i : Nat} (h : mask.toBitVec = BitVec.twoPow 8 i)
    (hi : i < 8) : b &&& mask = 0 ↔ ¬ bit b i := by
  rw [← UInt8.toBitVec_inj, UInt8.toBitVec_and, h, BitVec.and_twoPow, bit]
  by_cases hbit : b.toBitVec.getLsbD i
  · have hne : BitVec.twoPow 8 i ≠ 0#8 := by
      intro hzero
      have hset := congrArg (BitVec.getLsbD · i) hzero
      simp [hi] at hset
    simp [hbit, hne]
  · simp [hbit]

/-- A shift to the left moves each bit up and leaves the lowest one empty. -/
theorem bit_shiftLeft {b : UInt8} {i : Nat} (hi : i < 8) :
    bit (b <<< 1) i = (0 < i && bit b (i - 1)) := by
  have hshift : (b <<< 1).toBitVec = b.toBitVec <<< 1 := by
    simp
  rw [bit, hshift, BitVec.getLsbD_shiftLeft]
  cases i <;> simp [hi, bit]

/-- A shift to the right moves each bit down. -/
theorem bit_shiftRight {b : UInt8} {i : Nat} : bit (b >>> 1) i = bit b (i + 1) := by
  have hshift : (b >>> 1).toBitVec = b.toBitVec >>> 1 := by
    simp
  rw [bit, hshift, BitVec.getLsbD_ushiftRight, Nat.add_comm, bit]

/-- Doubling multiplies with the root: the bit that is shifted out comes back as the rest of the
modulus. -/
theorem value_double (b : UInt8) : value (double b) = root * value b := by
  have hshift : value (b <<< 1) = valueAt root 8 (fun i => 0 < i && bit b (i - 1)) :=
    valueAt_congr fun i hi => bit_shiftLeft hi
  have hmodulus : value 0x1b = root ^ 8 := by
    have hbits : ∀ i < 8, bit 0x1b i = (((i == 4) ^^ (i == 3)) ^^ (i == 1) ^^ (i == 0)) := by
      decide
    rw [value, valueAt_congr hbits, valueAt_xor, valueAt_xor, valueAt_xor,
      valueAt_single (by decide), valueAt_single (by decide), valueAt_single (by decide),
      valueAt_single (by decide), root_pow]
    ring
  have hmask : b &&& 0x80 = 0 ↔ ¬ bit b 7 := and_eq_zero_iff rfl (by decide)
  rw [value.eq_def b, mul_valueAt, ← hshift, double]
  by_cases hbit : bit b 7
  · rw [if_neg (fun hzero => hmask.mp hzero hbit), if_pos hbit, value_xor, hmodulus]
  · rw [if_pos (hmask.mpr hbit), if_neg hbit, add_zero]

/-- A product over the low bits of the first factor names the product with what these bits name. -/
theorem value_fieldMul_bits (bits : Nat) (a b : UInt8) :
    value (fieldMul bits a b) = valueAt root bits (bit a) * value b := by
  induction bits generalizing a b with
  | zero => simp [fieldMul, valueAt]
  | succ bits ih =>
      have hmask : a &&& 1 = 0 ↔ ¬ bit a 0 := and_eq_zero_iff rfl (by decide)
      have hrest : valueAt root bits (bit (a >>> 1)) = valueAt root bits fun i => bit a (i + 1) :=
        valueAt_congr fun i _ => bit_shiftRight
      rw [fieldMul, value_xor, ih, value_double, hrest, valueAt_succ, add_mul]
      congr 1
      · by_cases hbit : bit a 0
        · rw [if_neg (fun hzero => hmask.mp hzero hbit), if_pos hbit, one_mul]
        · rw [if_pos (hmask.mpr hbit), if_neg hbit, zero_mul, value_zero]
      · ring

/-- **Products of bytes name products.** -/
theorem value_fieldMul (a b : UInt8) : value (fieldMul 8 a b) = value a * value b :=
  value_fieldMul_bits 8 a b

/-- Repeated squares of bytes name repeated squares. -/
theorem value_squares (n : Nat) (b : UInt8) :
    value ((fun c => fieldMul 8 c c)^[n] b) = value b ^ 2 ^ n :=
  map_squares value_fieldMul n b

/-- Eight squares change nothing. -/
theorem value_pow_256 (b : UInt8) : value b ^ 256 = value b := by
  have hroot : root ^ 2 ^ 8 = root := by
    have hbits : ∀ i < 8, bit 2 i = (i == 1) := by decide
    have hvalue : value 2 = root := by
      rw [value, valueAt_congr hbits, valueAt_single (by decide), pow_one]
    have hsquares : (fun c => fieldMul 8 c c)^[8] 2 = 2 := by decide +kernel
    rw [← hvalue, ← value_squares, hsquares]
  have hpow : value b ^ 2 ^ 8 = valueAt (root ^ 2 ^ 8) 8 (bit b) := valueAt_pow 8 (bit b)
  rw [hroot] at hpow
  exact hpow

/-- A loop of products names a power. -/
theorem value_powers (n : Nat) (b : UInt8) :
    value ((List.range n).foldl (fun power _ => fieldMul 8 power b) 1) = value b ^ n := by
  induction n with
  | zero => simp
  | succ n ih =>
      rw [List.range_succ, List.foldl_append, List.foldl_cons, List.foldl_nil, value_fieldMul, ih,
        pow_succ]

/-- What is multiplied with a byte to give one is its inverse. -/
theorem fieldInverse_of_mul {b c : UInt8} (h : fieldMul 8 b c = 1) : fieldInverse b = c := by
  have hone : value b * value c = 1 := by
    rw [← value_fieldMul, h, value_one]
  have hpower : value b ^ 255 = 1 := by
    calc value b ^ 255 = value b ^ 255 * (value b * value c) := by rw [hone, mul_one]
      _ = value b ^ 256 * value c := by ring
      _ = 1 := by rw [value_pow_256, hone]
  refine value_injective ?_
  calc value (fieldInverse b) = value b ^ 254 := value_powers 254 b
    _ = value b ^ 254 * (value b * value c) := by rw [hone, mul_one]
    _ = value b ^ 255 * value c := by ring
    _ = value c := by rw [hpower, one_mul]

/-- The inverses of the bytes in order, zero for zero. -/
def inverses : List UInt8 := [
  0, 1, 141, 246, 203, 82, 123, 209, 232, 79, 41, 192, 176, 225, 229, 199, 116, 180, 170, 75,
  153, 43, 96, 95, 88, 63, 253, 204, 255, 64, 238, 178, 58, 110, 90, 241, 85, 77, 168, 201, 193,
  10, 152, 21, 48, 68, 162, 194, 44, 69, 146, 108, 243, 57, 102, 66, 242, 53, 32, 111, 119, 187,
  89, 25, 29, 254, 55, 103, 45, 49, 245, 105, 167, 100, 171, 19, 84, 37, 233, 9, 237, 92, 5, 202,
  76, 36, 135, 191, 24, 62, 34, 240, 81, 236, 97, 23, 22, 94, 175, 211, 73, 166, 54, 67, 244, 71,
  145, 223, 51, 147, 33, 59, 121, 183, 151, 133, 16, 181, 186, 60, 182, 112, 208, 6, 161, 250,
  129, 130, 131, 126, 127, 128, 150, 115, 190, 86, 155, 158, 149, 217, 247, 2, 185, 164, 222,
  106, 50, 109, 216, 138, 132, 114, 42, 20, 159, 136, 249, 220, 137, 154, 251, 124, 46, 195, 143,
  184, 101, 72, 38, 200, 18, 74, 206, 231, 210, 98, 12, 224, 31, 239, 17, 117, 120, 113, 165,
  142, 118, 61, 189, 188, 134, 87, 11, 40, 47, 163, 218, 212, 228, 15, 169, 39, 83, 4, 27, 252,
  172, 230, 122, 7, 174, 99, 197, 219, 226, 234, 148, 139, 196, 213, 157, 248, 144, 107, 177, 13,
  214, 235, 198, 14, 207, 173, 8, 78, 215, 227, 93, 80, 30, 179, 91, 35, 56, 52, 104, 70, 3, 140,
  221, 156, 125, 160, 205, 26, 65, 28]

/-- Each entry of the list but the first gives one with the byte of its place. -/
theorem fieldMul_inverses :
    ∀ n < 255, fieldMul 8 (UInt8.ofNat (n + 1)) (inverses.getD (n + 1) 0) = 1 := by
  decide +kernel

/-- Zero has no inverse, and its power is zero. -/
theorem fieldInverse_zero : fieldInverse 0 = 0 := by
  refine value_injective ((value_powers 254 0).trans ?_)
  rw [value_zero, zero_pow (by decide)]

/-- The power 254 is read off the table. -/
theorem fieldInverse_eq (b : UInt8) : fieldInverse b = inverses.getD b.toNat 0 := by
  have hb : UInt8.ofNat b.toNat = b := UInt8.ofNat_toNat
  have hlt := b.toNat_lt
  cases hn : b.toNat with
  | zero =>
      rw [hn] at hb
      rw [← hb]
      exact fieldInverse_zero
  | succ n =>
      have hproduct := fieldMul_inverses n (by omega)
      rw [← hn, hb] at hproduct
      rw [← hn]
      exact fieldInverse_of_mul hproduct

/-- The substitution is the affine map of the inverse. -/
theorem substitute_eq (b : UInt8) : substitute b = affine (inverses.getD b.toNat 0) := by
  have hb : UInt8.ofNat b.toNat = b := UInt8.ofNat_toNat
  have hlt : b.toNat < 256 := b.toNat_lt
  rw [substitute, substitutionTable, Array.getD_eq_getD_getElem?, List.getElem?_toArray,
    List.getElem?_map, List.getElem?_range hlt, Option.map_some, Option.getD_some, hb,
    fieldInverse_eq]

/-- One more word of the key schedule. -/
def extend (keyWords : Nat) (words : Array Column) : Array Column :=
  let i := words.size
  let last := words.getD (i - 1) default
  let marked :=
    if i % keyWords = 0 then
      let mark := (List.range (i / keyWords - 1)).foldl (fun m _ => double m) 1
      last.rotated.substituted.add ⟨mark, 0, 0, 0⟩
    else if keyWords > 6 ∧ i % keyWords = 4 then last.substituted
    else last
  words.push ((words.getD (i - keyWords) default).add marked)

/-- **The key schedule adds one word after the other**, each by the same rule. -/
theorem expand_eq_iterate (keyWords count : Nat) (words : Array Column) :
    expand keyWords count words = (fun words => extend keyWords words)^[count] words := by
  induction count generalizing words with
  | zero => rfl
  | succ count ih =>
      rw [expand, Function.iterate_succ_apply, ← ih]
      rfl

end AttestedModel.Cipher.Aes
