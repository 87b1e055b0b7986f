import AttestedModel.Proofs.ByteStrings
import AttestedModel.Rsa.PublicKey

/-!
# Public keys and their documents

Distinguished encoding is read from the front: a length, an element or an integer
that was written is read as itself, whatever follows it (`readLength_lengthBytes`,
`read_element`, `readInteger_integer`).  The document of a usable key is nothing
but nested elements, so it reads as that key (`PublicKey.ofDer?_toDer`).
-/

namespace AttestedModel.Rsa

namespace Der

/-- A number fits into as many bytes as it has. -/
theorem lt_pow_byteSize (n : Nat) : n < 256 ^ byteSize n := by
  have hlog : n < 2 ^ (n.log2 + 1) := Nat.lt_log2_self
  have hbits : n.log2 + 1 ≤ 8 * byteSize n := by
    unfold byteSize
    omega
  calc n < 2 ^ (n.log2 + 1) := hlog
    _ ≤ 2 ^ (8 * byteSize n) := Nat.pow_le_pow_right (by decide) hbits
    _ = 256 ^ byteSize n := pow_mul 2 8 _

/-- A number other than zero does not fit into fewer bytes than it has. -/
theorem pow_le_of_byteSize {n k : Nat} (hn : n ≠ 0) (h : byteSize n = k + 1) : 256 ^ k ≤ n := by
  have hbits : 8 * k ≤ n.log2 := by
    unfold byteSize at h
    omega
  calc 256 ^ k = 2 ^ (8 * k) := (pow_mul 2 8 k).symm
    _ ≤ 2 ^ n.log2 := Nat.pow_le_pow_right (by decide) hbits
    _ ≤ n := Nat.log2_self_le hn

/-- A number below a power of 256 has no more bytes than the exponent. -/
theorem byteSize_le {n k : Nat} (hk : k ≠ 0) (h : n < 256 ^ k) : byteSize n ≤ k := by
  by_contra hlarge
  have hn : n ≠ 0 := by
    intro hzero
    subst hzero
    simp [byteSize] at hlarge
    omega
  have hpow : 256 ^ k ≤ 256 ^ (byteSize n - 1) := Nat.pow_le_pow_right (by decide) (by omega)
  have hle := pow_le_of_byteSize hn (show byteSize n = byteSize n - 1 + 1 by omega)
  omega

/-- A number of so many bits has no more bytes than hold them. -/
theorem byteSize_le_of_bits {n bits k : Nat} (hk : k ≠ 0) (h : n < Nat.pow 2 bits)
    (hbits : bits ≤ 8 * k) : byteSize n ≤ k := by
  refine byteSize_le hk ?_
  calc n < 2 ^ bits := h
    _ ≤ 2 ^ (8 * k) := Nat.pow_le_pow_right (by decide) hbits
    _ = 256 ^ k := pow_mul 2 8 k

/-- A number of so many bits has the bytes that it takes to hold them. -/
theorem le_byteSize_of_bits {n bits : Nat} (h : Nat.pow 2 bits ≤ n) : bits / 8 + 1 ≤ byteSize n := by
  have hpos : 0 < Nat.pow 2 bits := Nat.pow_pos (by decide)
  have hlog : bits ≤ n.log2 := (Nat.le_log2 (by omega)).mpr h
  exact Nat.succ_le_succ (Nat.div_le_div_right hlog)

@[simp] theorem length_shortest (n : Nat) : (shortest n).length = byteSize n :=
  Bytes.length_ofNat ..

/-- The shortest bytes of a number are read as the number. -/
theorem toNat_shortest (n : Nat) : Bytes.toNat (shortest n) = n :=
  Bytes.toNat_ofNat_of_lt (lt_pow_byteSize n)

/-- The shortest bytes of a number begin with its first digit, which is zero for zero only. -/
theorem shortest_eq_cons {n : Nat} (hn : n ≠ 0) :
    ∃ b bs, shortest n = b :: bs ∧ b.toNat ≠ 0 := by
  obtain ⟨k, hk⟩ : ∃ k, byteSize n = k + 1 := ⟨n.log2 / 8, rfl⟩
  have hlow := pow_le_of_byteSize hn hk
  have hhigh := lt_pow_byteSize n
  rw [hk, pow_succ'] at hhigh
  have hdigit : 1 ≤ n / 256 ^ k ∧ n / 256 ^ k < 256 :=
    ⟨(Nat.one_le_div_iff (by positivity)).mpr hlow, Nat.div_lt_of_lt_mul (by linarith)⟩
  refine ⟨UInt8.ofNat (n / 256 ^ k), Bytes.ofNat k n, ?_, ?_⟩
  · rw [shortest, hk, Bytes.ofNat_succ]
  · rw [UInt8.toNat_ofNat']
    omega

/-- A written length is read, whatever follows it. -/
theorem readLength_lengthBytes {n : Nat} (h : n < 2 ^ 32) (rest : Bytes) :
    readLength (lengthBytes n ++ rest) = some (n, rest) := by
  unfold lengthBytes
  split
  · rename_i hshort
    have hbyte : (UInt8.ofNat n).toNat = n := by
      rw [UInt8.toNat_ofNat']
      omega
    rw [List.singleton_append, readLength, if_pos (UInt8.lt_iff_toNat_lt.mpr (by rwa [hbyte])),
      hbyte]
  · rename_i hlong
    have hsize : byteSize n ≤ 4 := byteSize_le (by decide) (by omega)
    have hpos : byteSize n ≠ 0 := by simp [byteSize]
    have hbyte : (UInt8.ofNat (128 + byteSize n)).toNat = 128 + byteSize n := by
      rw [UInt8.toNat_ofNat']
      omega
    have htake : (shortest n ++ rest).take (byteSize n) = shortest n :=
      List.take_left' (length_shortest n)
    have hdrop : (shortest n ++ rest).drop (byteSize n) = rest :=
      List.drop_left' (length_shortest n)
    rw [List.cons_append, readLength, if_neg (by rw [UInt8.lt_iff_toNat_lt, hbyte]; simp)]
    simp only [hbyte, Nat.add_sub_cancel_left, htake, hdrop, toNat_shortest, length_shortest]
    rw [if_neg (by omega)]

/-- A length is written in the bytes of its number, and at most one in front of them. -/
theorem length_lengthBytes_le (n : Nat) : (lengthBytes n).length ≤ byteSize n + 1 := by
  unfold lengthBytes
  split <;> simp

/-- A written element is read, whatever follows it. -/
theorem read_element (tag : UInt8) {content : Bytes} (h : content.length < 2 ^ 32) (rest : Bytes) :
    read tag (element tag content ++ rest) = some (content, rest) := by
  rw [element, List.cons_append, List.cons_append, List.append_assoc, read, if_neg (by simp),
    readLength_lengthBytes h]
  simp

/-- An element is at most six bytes longer than its content. -/
theorem length_element_le (tag : UInt8) {content : Bytes} (h : content.length < 2 ^ 32) :
    (element tag content).length ≤ content.length + 6 := by
  have hlength := length_lengthBytes_le content.length
  have hsize : byteSize content.length ≤ 4 := byteSize_le (by decide) (by omega)
  simp only [element, List.length_append, List.length_cons]
  omega

/-- A written integer is read, whatever follows it: no bit of its first byte is a sign, and a
zero stands in front only where it must. -/
theorem readInteger_integer {n : Nat} (h : byteSize n + 1 < 2 ^ 32) (rest : Bytes) :
    readInteger (integer n ++ rest) = some (n, rest) := by
  by_cases hn : n = 0
  · subst hn
    rfl
  · obtain ⟨b, bs, hshortest, hb⟩ := shortest_eq_cons hn
    have hlength : (b :: bs).length = byteSize n := by rw [← hshortest, length_shortest]
    have hvalue : Bytes.toNat (b :: bs) = n := by rw [← hshortest, toNat_shortest]
    simp only [integer, hshortest, List.head?_cons, Option.any_some, decide_eq_true_eq]
    by_cases hsign : b ≥ 128
    · have hnot : ¬b < 128 := UInt8.not_lt.mpr hsign
      rw [if_pos hsign, readInteger, read_element integerTag (by rw [List.length_cons]; omega)]
      simp only [ge_iff_le, UInt8.reduceLE, hnot, and_false, or_false, if_false,
        Bytes.toNat_zero_cons, hvalue]
    · rw [if_neg hsign, readInteger, read_element integerTag (by omega)]
      cases bs with
      | nil =>
          have hbyte : b.toNat = n := by rw [← hvalue]; simp [Bytes.toNat]
          simp only [if_neg hsign, hbyte]
      | cons c cs =>
          have hzero : b ≠ 0 := fun h0 => hb (by rw [h0]; rfl)
          simp only [hsign, hzero, false_and, or_false, if_false, hvalue]

/-- An integer is written in the bytes of its number, and at most seven in front of them. -/
theorem length_integer_le {n : Nat} (h : byteSize n + 1 < 2 ^ 32) :
    (integer n).length ≤ byteSize n + 7 := by
  have hcontent : ∀ content : Bytes, content.length ≤ byteSize n + 1 →
      (element integerTag content).length ≤ byteSize n + 7 := fun content hlength => by
    have helement := @length_element_le integerTag content (by omega)
    omega
  unfold integer
  dsimp only
  split
  · exact hcontent _ (by simp)
  · exact hcontent _ (by simp)

end Der

namespace PublicKey

/-- A key is usable exactly if both of its numbers are odd and within their limits. -/
theorem usable_iff {key : PublicKey} :
    key.usable ↔ key.modulus % 2 = 1 ∧ key.modulus < Nat.pow 2 4096 ∧ key.exponent % 2 = 1 ∧
      2 ≤ key.exponent ∧ key.exponent < Nat.pow 2 33 ∧ key.exponent < key.modulus := by
  simp only [usable, Bool.and_eq_true, decide_eq_true_eq, and_assoc]

/-- The numbers of a usable key are short. -/
theorem byteSize_le_of_usable {key : PublicKey} (h : key.usable) :
    Der.byteSize key.modulus ≤ 512 ∧ Der.byteSize key.exponent ≤ 5 := by
  obtain ⟨-, hmodulus, -, -, hexponent, -⟩ := usable_iff.mp h
  exact ⟨Der.byteSize_le_of_bits (by decide) hmodulus (by decide),
    Der.byteSize_le_of_bits (by decide) hexponent (by decide)⟩

/-- The two numbers of a usable key are read from their sequence. -/
theorem ofNumbers?_numbers {key : PublicKey} (h : key.usable) :
    let numbers := Der.integer key.modulus ++ Der.integer key.exponent
    ofNumbers? (Der.element Der.sequenceTag numbers) = some key ∧ numbers.length ≤ 531 := by
  obtain ⟨hm, he⟩ := byteSize_le_of_usable h
  have hmLength := @Der.length_integer_le key.modulus (by omega)
  have heLength := @Der.length_integer_le key.exponent (by omega)
  have hlength : (Der.integer key.modulus ++ Der.integer key.exponent).length ≤ 531 := by
    rw [List.length_append]
    omega
  have hsequence := @Der.read_element Der.sequenceTag
    (Der.integer key.modulus ++ Der.integer key.exponent) (by omega) []
  have hmodulus := @Der.readInteger_integer key.modulus (by omega) (Der.integer key.exponent)
  have hexponent := @Der.readInteger_integer key.exponent (by omega) []
  rw [List.append_nil] at hsequence hexponent
  refine ⟨?_, hlength⟩
  simp only [ofNumbers?, hsequence, hmodulus, hexponent, Option.bind_eq_bind, Option.bind_some]
  rfl

/-- **A document reads as its key**, if the key is usable. -/
theorem ofDer?_toDer {key : PublicKey} (h : key.usable) : ofDer? key.toDer = some key := by
  obtain ⟨hnumbers, hlength⟩ := ofNumbers?_numbers h
  have halgorithm : (Der.element Der.sequenceTag algorithm).length = 15 := rfl
  unfold toDer
  dsimp only
  generalize Der.integer key.modulus ++ Der.integer key.exponent = numbers at hnumbers hlength ⊢
  have hsequence := @Der.length_element_le Der.sequenceTag numbers (by omega)
  generalize Der.element Der.sequenceTag numbers = bits at hnumbers hsequence ⊢
  have hbits : (0 :: bits).length ≤ 538 := by
    rw [List.length_cons]
    omega
  have hstring := @Der.length_element_le Der.bitStringTag (0 :: bits) (by omega)
  have hbody := @Der.read_element Der.sequenceTag
    (Der.element Der.sequenceTag algorithm ++ Der.element Der.bitStringTag (0 :: bits))
    (by rw [List.length_append]; omega) []
  have hidentifier := Der.read_element Der.sequenceTag (show algorithm.length < 2 ^ 32 by decide)
    (Der.element Der.bitStringTag (0 :: bits))
  have hkey := @Der.read_element Der.bitStringTag (0 :: bits) (by omega) []
  rw [List.append_nil] at hbody hkey
  simp only [ofDer?, hbody, hidentifier, hkey, hnumbers, Option.bind_eq_bind, Option.bind_some,
    ne_eq, not_true_eq_false, if_false, h, if_true]

end PublicKey

end AttestedModel.Rsa
