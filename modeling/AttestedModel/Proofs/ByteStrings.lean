import Mathlib
import AttestedModel.Bytes

/-!
# Byte strings as numbers, words, masks and pieces

The laws that every codec of this library rests on.  A byte string is the number
it writes together with its length (`ofNat_toNat`, `toNat_ofNat`), a 32-bit word
is its four bytes (`word32_ofWord32`, `ofWord32_word32`), a mask laid on twice is
gone (`xor_xor`), and a string falls into pieces one piece at a time
(`chunks_of_ne_nil`).
-/

namespace AttestedModel.Bytes

@[simp] theorem toNat_nil : toNat [] = 0 :=
  rfl

/-- A last byte is the last digit. -/
theorem toNat_append_singleton (bs : Bytes) (b : UInt8) :
    toNat (bs ++ [b]) = bs.toNat * 256 + b.toNat := by
  simp [toNat]

/-- A zero byte in front changes no number. -/
@[simp] theorem toNat_zero_cons (bs : Bytes) : toNat (0 :: bs) = bs.toNat := by
  simp [toNat]

/-- A string of `w` bytes writes a number of at most `w` digits. -/
theorem toNat_lt (bs : Bytes) : bs.toNat < 256 ^ bs.length := by
  induction bs using List.reverseRecOn with
  | nil => simp
  | append_singleton bs b ih =>
      have hb := b.toNat_lt
      rw [toNat_append_singleton, List.length_append, List.length_singleton, pow_succ]
      omega

/-- **Reading after writing.**  The digits kept are the number modulo their range. -/
theorem toNat_ofNat (width n : Nat) : (ofNat width n).toNat = n % 256 ^ width := by
  induction width generalizing n with
  | zero => simp [ofNat, Nat.mod_one]
  | succ width ih =>
      have hbyte : (UInt8.ofNat n).toNat = n % 256 := UInt8.toNat_ofNat'
      rw [ofNat, toNat_append_singleton, ih, hbyte, pow_succ', Nat.mod_mul]
      ring

/-- A number that fits its width is read back. -/
theorem toNat_ofNat_of_lt {width n : Nat} (h : n < 256 ^ width) :
    (ofNat width n).toNat = n := by
  rw [toNat_ofNat, Nat.mod_eq_of_lt h]

/-- The first digit of a written number, and the others. -/
theorem ofNat_succ (width n : Nat) :
    ofNat (width + 1) n = UInt8.ofNat (n / 256 ^ width) :: ofNat width n := by
  induction width generalizing n with
  | zero => simp [ofNat]
  | succ width ih =>
      rw [ofNat, ih, Nat.div_div_eq_div_mul, ← pow_succ', List.cons_append]
      rfl

/-- **Writing after reading.**  A string is the number it writes at its own width. -/
theorem ofNat_toNat (bs : Bytes) : ofNat bs.length bs.toNat = bs := by
  induction bs using List.reverseRecOn with
  | nil => rfl
  | append_singleton bs b ih =>
      have hb := b.toNat_lt
      rw [List.length_append, List.length_singleton, ofNat, toNat_append_singleton]
      have hquotient : (toNat bs * 256 + b.toNat) / 256 = toNat bs := by omega
      have hbyte : UInt8.ofNat (toNat bs * 256 + b.toNat) = b := by
        apply UInt8.toNat_inj.mp
        rw [UInt8.toNat_ofNat']
        omega
      rw [hquotient, hbyte, ih]

/-- The bytes of a word read as the word. -/
theorem word32_ofWord32 (w : UInt32) :
    word32 w.toUInt8 (w >>> 8).toUInt8 (w >>> 16).toUInt8 (w >>> 24).toUInt8 = w := by
  apply UInt32.toBitVec_inj.mp
  apply BitVec.eq_of_getLsbD_eq
  intro i hi
  simp only [word32, UInt32.toBitVec_or, UInt32.toBitVec_shiftLeft, UInt8.toBitVec_toUInt32,
    UInt32.toBitVec_toUInt8, UInt32.toBitVec_shiftRight, BitVec.getLsbD_or]
  simp [BitVec.getLsbD_setWidth]
  grind

/-- A word is written as the bytes it was read from. -/
theorem ofWord32_word32 (b0 b1 b2 b3 : UInt8) :
    ofWord32 (word32 b0 b1 b2 b3) = [b0, b1, b2, b3] := by
  simp only [ofWord32, word32, List.cons.injEq, and_true]
  refine ⟨?_, ?_, ?_, ?_⟩ <;> apply UInt8.toBitVec_inj.mp <;> apply BitVec.eq_of_getLsbD_eq <;>
    intro i hi <;> simp <;> grind

/-- What is longer is cut. -/
@[simp] theorem length_xor (a b : Bytes) : (a.xor b).length = min a.length b.length := by
  simp [xor]

/-- A mask that covers a string, laid on twice, is gone. -/
theorem xor_xor {a mask : Bytes} (h : a.length ≤ mask.length) : (a.xor mask).xor mask = a := by
  induction a generalizing mask with
  | nil => simp [xor]
  | cons x a ih =>
      cases mask with
      | nil => simp at h
      | cons m mask =>
          have htail := @ih mask (by simpa using h)
          simp only [xor, List.zipWith_cons_cons] at htail ⊢
          rw [htail, UInt8.xor_assoc, UInt8.xor_self, UInt8.xor_zero]

variable {size : Nat}

@[simp] theorem chunks_nil : chunks size [] = [] := by
  rw [chunks]

/-- The first piece of a string, and the pieces of the rest. -/
theorem chunks_of_ne_nil {bs : Bytes} (hsize : 0 < size) (h : bs ≠ []) :
    bs.chunks size = bs.take size :: chunks size (bs.drop size) := by
  cases bs with
  | nil => exact absurd rfl h
  | cons b bs =>
      obtain ⟨n, rfl⟩ : ∃ n, size = n + 1 := ⟨size - 1, by omega⟩
      rw [chunks, Nat.add_sub_cancel, List.take_succ_cons, List.drop_succ_cons]

end AttestedModel.Bytes
