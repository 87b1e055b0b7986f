import AttestedModel.Proofs.PublicKeyDocuments
import AttestedModel.Rsa.KeyPair

/-!
# What is wrapped for a pair, the pair unwraps

Two layers are undone.  The padding is undone because each of its masks is laid
on twice (`Oaep.decode?_encode`).  The exponentiation is undone because public and
private exponent multiply to one more than a multiple of `(p - 1) * (q - 1)`
(`KeyPair.Sound.exponents`), so that their product is the identity modulo either
prime and therefore modulo the modulus (`KeyPair.Sound.powMod_powMod`).
-/

namespace AttestedModel.Rsa

namespace Oaep

/-- A mask is as long as it is asked to be. -/
theorem length_mask (seed : Bytes) (length : Nat) : (mask seed length).length = length := by
  have hall : ((List.range ((length + digestLength - 1) / digestLength)).flatMap fun i =>
      Digest.sha256 (seed ++ Bytes.ofNat 4 i)).length =
        (length + digestLength - 1) / digestLength * digestLength := by
    simp [List.length_flatMap, digestLength]
  rw [mask, List.length_take, hall, digestLength]
  omega

variable {width : Nat} {seed message : Bytes}

/-- A data block fills the width but for the zero byte and the seed. -/
theorem length_dataBlock (h : message.length + overhead ≤ width) :
    (dataBlock width message).length = width - 33 := by
  simp only [dataBlock, List.length_append, List.length_cons, List.length_replicate,
    Digest.length_sha256]
  simp only [overhead, digestLength] at h ⊢
  omega

/-- A data block holds its message. -/
theorem message?_dataBlock (width : Nat) (message : Bytes) :
    message? (dataBlock width message) = some message := by
  have hlabel : (Digest.sha256 []).length = digestLength := Digest.length_sha256 []
  rw [message?, dataBlock, List.append_assoc, List.take_left' hlabel, List.drop_left' hlabel]
  simp

/-- **The padding is undone.**  A padded message is read back, whatever the seed was. -/
theorem decode?_encode (hseed : seed.length = digestLength) :
    decode? (encode width seed message) = some message := by
  simp only [encode]
  generalize hblock : dataBlock width message = block
  generalize hmasked : Bytes.xor block (mask seed block.length) = masked
  have hlength : masked.length = block.length := by
    rw [← hmasked, Bytes.length_xor, length_mask, Nat.min_self]
  have hfront : (Bytes.xor seed (mask masked digestLength)).length = digestLength := by
    rw [Bytes.length_xor, length_mask, hseed, Nat.min_self]
  have hseedBack : Bytes.xor (Bytes.xor seed (mask masked digestLength))
      (mask masked digestLength) = seed :=
    Bytes.xor_xor (by rw [length_mask, hseed])
  have hblockBack : Bytes.xor masked (mask seed masked.length) = block := by
    rw [hlength, ← hmasked]
    exact Bytes.xor_xor (by rw [length_mask])
  rw [List.cons_append, decode?]
  simp only [List.take_left' hfront, List.drop_left' hfront, hseedBack, hblockBack]
  rw [← hblock, message?_dataBlock]

/-- A padded message has the width it was padded to, and begins with a zero byte. -/
theorem encode_eq_cons (hseed : seed.length = digestLength)
    (h : message.length + overhead ≤ width) :
    ∃ rest, encode width seed message = 0 :: rest ∧ rest.length + 1 = width := by
  simp only [encode, List.cons_append]
  refine ⟨_, rfl, ?_⟩
  rw [List.length_append, Bytes.length_xor, Bytes.length_xor, length_mask, length_mask,
    length_dataBlock h, hseed]
  simp only [overhead, digestLength] at h ⊢
  omega

end Oaep

/-- Repeated squaring computes the power. -/
theorem powMod_eq (base exponent modulus : Nat) :
    powMod base exponent modulus = base ^ exponent % modulus := by
  induction base, exponent using powMod.induct modulus with
  | case1 base => rw [powMod, if_pos rfl, pow_zero]
  | case2 base exponent hpos hodd ih =>
      have hexponent : exponent = 2 * (exponent / 2) + 1 := by omega
      rw [powMod, if_neg hpos]
      simp only [if_pos hodd, ih]
      rw [← Nat.pow_mod, Nat.mul_mod, Nat.mod_mod, ← Nat.mul_mod]
      conv_rhs => rw [hexponent, pow_succ', pow_mul, pow_two]
  | case3 base exponent hpos heven ih =>
      have hexponent : exponent = 2 * (exponent / 2) := by omega
      rw [powMod, if_neg hpos]
      simp only [if_neg heven, ih]
      rw [← Nat.pow_mod]
      conv_rhs => rw [hexponent, pow_mul, pow_two]

/-- A power whose exponent is one more than a multiple of `p - 1` is the base modulo `p`. -/
theorem pow_modEq_of_prime {p a : Nat} (hp : p.Prime) (ha : p - 1 ∣ a) (x : Nat) :
    x ^ (a + 1) ≡ x [MOD p] := by
  by_cases hx : p ∣ x
  · have hzero : x ≡ 0 [MOD p] := (Nat.modEq_zero_iff_dvd).mpr hx
    have hpow : x ^ (a + 1) ≡ 0 [MOD p] :=
      (Nat.modEq_zero_iff_dvd).mpr (dvd_pow hx (Nat.succ_ne_zero a))
    exact hpow.trans hzero.symm
  · -- Fermat's little theorem, for the bases that `p` does not divide
    obtain ⟨k, rfl⟩ := ha
    have hcoprime : Nat.Coprime x p := (Nat.Coprime.symm ((hp.coprime_iff_not_dvd).mpr hx))
    have hfermat : x ^ (p - 1) ≡ 1 [MOD p] := by
      rw [← Nat.totient_prime hp]
      exact Nat.ModEq.pow_totient hcoprime
    calc x ^ ((p - 1) * k + 1) = (x ^ (p - 1)) ^ k * x := by rw [pow_succ, pow_mul]
      _ ≡ 1 ^ k * x [MOD p] := (hfermat.pow k).mul_right x
      _ = x := by rw [one_pow, one_mul]

namespace KeyPair

/-- Two distinct odd primes whose public exponent can be inverted, with a modulus of 3072 to 4096
bits. -/
structure Sound (pair : KeyPair) : Prop where
  p_prime : pair.p.Prime
  q_prime : pair.q.Prime
  p_odd : pair.p % 2 = 1
  q_odd : pair.q % 2 = 1
  distinct : pair.p ≠ pair.q
  invertible : Nat.Coprime publicExponent ((pair.p - 1) * (pair.q - 1))
  bits_least : Nat.pow 2 3071 ≤ pair.p * pair.q
  bits_most : pair.p * pair.q < Nat.pow 2 4096

/-- A number without common factors with another has a multiple one below a multiple of it. -/
theorem exists_multiple {e n : Nat} (he : 1 < e) (h : Nat.Coprime e n) :
    ∃ k < e, (k * (n % e) + 1) % e = 0 := by
  obtain ⟨m, -, hm⟩ := Nat.exists_mul_mod_eq_one_of_coprime h.symm he
  refine ⟨(e - 1) * m % e, Nat.mod_lt _ (by omega), ?_⟩
  have hproduct : (e - 1) * m % e * (n % e) ≡ e - 1 [MOD e] := by
    calc (e - 1) * m % e * (n % e) ≡ (e - 1) * m * n [MOD e] :=
          (Nat.mod_modEq _ _).mul (Nat.mod_modEq _ _)
      _ = (e - 1) * (n * m) := by ring
      _ ≡ (e - 1) * 1 [MOD e] := Nat.ModEq.mul_left _ (by rw [Nat.ModEq, hm, Nat.mod_eq_of_lt he])
      _ = e - 1 := mul_one _
  have hsum : (e - 1) * m % e * (n % e) + 1 ≡ e - 1 + 1 [MOD e] := hproduct.add_right 1
  rw [Nat.sub_add_cancel he.le] at hsum
  exact Eq.trans hsum (Nat.mod_self e)

variable {pair : KeyPair}

/-- The two exponents multiply to one more than a multiple of `(p - 1) * (q - 1)`. -/
theorem Sound.exponents (h : pair.Sound) :
    ∃ k, publicExponent * pair.privateExponent = (pair.p - 1) * (pair.q - 1) * k + 1 := by
  unfold privateExponent
  dsimp only
  generalize htotient : (pair.p - 1) * (pair.q - 1) = totient
  have hinvertible := h.invertible
  rw [htotient] at hinvertible
  obtain ⟨k, hk, hmultiple⟩ := exists_multiple (by decide) hinvertible
  cases hfind : (List.range publicExponent).find? fun k =>
      (k * (totient % publicExponent) + 1) % publicExponent = 0 with
  | none =>
      have hnone := List.find?_eq_none.mp hfind k (List.mem_range.mpr hk)
      exact absurd hmultiple (by simpa using hnone)
  | some m =>
      have hm : (m * (totient % publicExponent) + 1) % publicExponent = 0 := by
        simpa using List.find?_some hfind
      have hresidue : m * (totient % publicExponent) + 1 ≡ m * totient + 1 [MOD publicExponent] :=
        ((Nat.mod_modEq _ _).mul_left m).add_right 1
      have hdvd : publicExponent ∣ m * totient + 1 :=
        Nat.dvd_of_mod_eq_zero (Eq.trans hresidue.symm hm)
      refine ⟨m, ?_⟩
      rw [Option.getD_some, Nat.mul_div_cancel' hdvd, Nat.mul_comm]

/-- A power by both exponents is its base, modulo the modulus. -/
theorem Sound.pow_exponents (h : pair.Sound) (x : Nat) :
    x ^ (publicExponent * pair.privateExponent) ≡ x [MOD pair.p * pair.q] := by
  obtain ⟨k, hk⟩ := h.exponents
  have hmodP : x ^ (publicExponent * pair.privateExponent) ≡ x [MOD pair.p] := by
    rw [hk]
    exact pow_modEq_of_prime h.p_prime (Dvd.intro _ (mul_assoc _ _ _).symm) x
  have hmodQ : x ^ (publicExponent * pair.privateExponent) ≡ x [MOD pair.q] := by
    rw [hk]
    exact pow_modEq_of_prime h.q_prime (Dvd.intro ((pair.p - 1) * k) (by ring)) x
  have hcoprime : Nat.Coprime pair.p pair.q :=
    (Nat.coprime_primes h.p_prime h.q_prime).mpr h.distinct
  exact (Nat.modEq_and_modEq_iff_modEq_mul hcoprime).mp ⟨hmodP, hmodQ⟩

/-- **The private exponent undoes the public one**, on every number below the modulus. -/
theorem Sound.powMod_powMod (h : pair.Sound) {x : Nat} (hx : x < pair.p * pair.q) :
    powMod (powMod x publicExponent (pair.p * pair.q)) pair.privateExponent (pair.p * pair.q) =
      x := by
  rw [powMod_eq, powMod_eq, ← Nat.pow_mod, ← pow_mul]
  exact Eq.trans (h.pow_exponents x) (Nat.mod_eq_of_lt hx)

/-- The modulus has 384 bytes at least. -/
theorem Sound.size_least (h : pair.Sound) : 384 ≤ pair.publicKey.size :=
  Der.le_byteSize_of_bits h.bits_least

theorem Sound.modulus_pos (h : pair.Sound) : 0 < pair.p * pair.q :=
  Nat.mul_pos h.p_prime.pos h.q_prime.pos

/-- The modulus has a digit other than zero in its first byte. -/
theorem Sound.pow_le_modulus (h : pair.Sound) :
    256 ^ (pair.publicKey.size - 1) ≤ pair.p * pair.q := by
  have hleast := h.size_least
  refine Der.pow_le_of_byteSize h.modulus_pos.ne' ?_
  show pair.publicKey.size = pair.publicKey.size - 1 + 1
  omega

/-- The public half of a sound pair is one that can be read from its document. -/
theorem Sound.usable (h : pair.Sound) : pair.publicKey.usable := by
  have hodd : publicExponent % 2 = 1 := by decide
  have hleast : 2 ≤ publicExponent := by decide
  have hmost : publicExponent < Nat.pow 2 33 := by decide
  have hsize := h.size_least
  have hbelow : publicExponent < pair.p * pair.q := by
    calc publicExponent < 256 ^ 3 := by decide
      _ ≤ 256 ^ (pair.publicKey.size - 1) := Nat.pow_le_pow_right (by decide) (by omega)
      _ ≤ pair.p * pair.q := h.pow_le_modulus
  refine PublicKey.usable_iff.mpr ⟨?_, h.bits_most, hodd, hleast, hmost, hbelow⟩
  show pair.p * pair.q % 2 = 1
  rw [Nat.mul_mod, h.p_odd, h.q_odd]

/-- What is decrypted under a pair has the length of its modulus, is below it, and is a padded
message under the private exponent. -/
theorem decrypt?_eq_some_iff {wrapped message : Bytes} :
    pair.decrypt? wrapped = some message ↔
      wrapped.length = pair.publicKey.size ∧ wrapped.toNat < pair.p * pair.q ∧
        Oaep.decode? (Bytes.ofNat pair.publicKey.size
          (powMod wrapped.toNat pair.privateExponent (pair.p * pair.q))) = some message := by
  have hmodulus : pair.publicKey.modulus = pair.p * pair.q := rfl
  simp only [decrypt?, hmodulus]
  split
  · simp only [reduceCtorEq, false_iff]
    omega
  · rename_i haccepted
    rw [not_or, not_not, Nat.not_le] at haccepted
    exact ⟨fun hdecode => ⟨haccepted.1, haccepted.2, hdecode⟩, fun h => h.2.2⟩

/-- A pair unwraps what is decrypted under it. -/
theorem unwrap_eq_ok_iff {wrapped message : Bytes} :
    pair.unwrap wrapped = .ok message ↔ pair.decrypt? wrapped = some message := by
  unfold unwrap
  cases pair.decrypt? wrapped <;> simp

/-- What is not unwrapped is refused for one reason, whatever is wrong with it. -/
theorem unwrap_eq_error_iff {wrapped : Bytes} :
    pair.unwrap wrapped = .error .unwrapError ↔ ∀ message, pair.unwrap wrapped ≠ .ok message := by
  unfold unwrap
  cases pair.decrypt? wrapped <;> simp

/-- **What is wrapped for a pair, the pair unwraps.**  Every message that the padding has room for
is wrapped under the pair's own document, whatever the seed, and unwrapped to itself. -/
theorem Sound.unwrap_wrap (h : pair.Sound) {message seed : Bytes}
    (hseed : seed.length = Oaep.digestLength)
    (hmessage : message.length + Oaep.overhead ≤ pair.publicKey.size) :
    ∃ wrapped, wrap pair.publicKeyDer message seed = .ok wrapped ∧
      pair.unwrap wrapped = .ok message := by
  have hmodulus : pair.publicKey.modulus = pair.p * pair.q := rfl
  have hexponent : pair.publicKey.exponent = publicExponent := rfl
  obtain ⟨rest, hpadded, hrest⟩ := Oaep.encode_eq_cons hseed hmessage
  -- The zero byte in front keeps the padded message below the modulus.
  have hbelow : Bytes.toNat (Oaep.encode pair.publicKey.size seed message) < pair.p * pair.q := by
    rw [hpadded, Bytes.toNat_zero_cons]
    calc Bytes.toNat rest < 256 ^ rest.length := Bytes.toNat_lt rest
      _ = 256 ^ (pair.publicKey.size - 1) := by rw [← hrest, Nat.add_sub_cancel]
      _ ≤ pair.p * pair.q := h.pow_le_modulus
  have hlength : (Oaep.encode pair.publicKey.size seed message).length = pair.publicKey.size := by
    rw [hpadded, List.length_cons, hrest]
  generalize hencoded : Oaep.encode pair.publicKey.size seed message = padded at hbelow hlength
  have hcipher : powMod padded.toNat publicExponent (pair.p * pair.q) < pair.p * pair.q := by
    rw [powMod_eq]
    exact Nat.mod_lt _ h.modulus_pos
  refine ⟨Bytes.ofNat pair.publicKey.size
    (powMod padded.toNat publicExponent (pair.p * pair.q)), ?_, ?_⟩
  · rw [wrap, publicKeyDer, PublicKey.ofDer?_toDer h.usable]
    simp only [PublicKey.encrypt, hencoded, hmodulus, hexponent]
    rw [if_neg (by omega)]
  · have hvalue : (Bytes.ofNat pair.publicKey.size
        (powMod padded.toNat publicExponent (pair.p * pair.q))).toNat =
          powMod padded.toNat publicExponent (pair.p * pair.q) :=
      Bytes.toNat_ofNat_of_lt (hcipher.trans (Der.lt_pow_byteSize _))
    refine unwrap_eq_ok_iff.mpr (decrypt?_eq_some_iff.mpr ⟨Bytes.length_ofNat .., ?_, ?_⟩)
    · rwa [hvalue]
    · rw [hvalue, h.powMod_powMod hbelow, ← hlength, Bytes.ofNat_toNat, ← hencoded,
        Oaep.decode?_encode hseed]

end KeyPair

/-- A number one above a multiple of a power of two. -/
def aboveTwoPower (c k : Nat) : Nat :=
  c * Nat.pow 2 k + 1

/-- A number one above a multiple of a power of two is prime if some base has the order of all its
units: for a prime `c` there are only two quotients of the exponent to look at. -/
theorem prime_aboveTwoPower {a c k : Nat} (hc : c.Prime)
    (hone : powMod a (c * Nat.pow 2 (k + 1)) (aboveTwoPower c (k + 1)) = 1)
    (hhalf : powMod a (c * Nat.pow 2 k) (aboveTwoPower c (k + 1)) ≠ 1)
    (hpower : powMod a (Nat.pow 2 (k + 1)) (aboveTwoPower c (k + 1)) ≠ 1) :
    (aboveTwoPower c (k + 1)).Prime := by
  have hminus : aboveTwoPower c (k + 1) - 1 = c * Nat.pow 2 (k + 1) := rfl
  have hlarge : 1 % aboveTwoPower c (k + 1) = 1 := by
    have hpos : 0 < c * Nat.pow 2 (k + 1) := Nat.mul_pos hc.pos (Nat.pow_pos (by decide))
    exact Nat.mod_eq_of_lt (by unfold aboveTwoPower; omega)
  have hunit : ∀ m, (a : ZMod (aboveTwoPower c (k + 1))) ^ m = 1 ↔
      powMod a m (aboveTwoPower c (k + 1)) = 1 := by
    intro m
    have hcast := ZMod.natCast_eq_natCast_iff' (a ^ m) 1 (aboveTwoPower c (k + 1))
    rw [hlarge, ← powMod_eq] at hcast
    simpa using hcast
  refine lucas_primality _ (a : ZMod (aboveTwoPower c (k + 1))) ?_ ?_
  · rw [hminus]
    exact (hunit _).mpr hone
  · intro r hr hdvd
    rw [hminus] at hdvd ⊢
    rcases (Nat.Prime.dvd_mul hr).mp hdvd with hdvd | hdvd
    · obtain rfl : r = c := (Nat.prime_dvd_prime_iff_eq hr hc).mp hdvd
      rw [Nat.mul_div_cancel_left _ hc.pos]
      exact mt (hunit _).mp hpower
    · obtain rfl : r = 2 :=
        (Nat.prime_dvd_prime_iff_eq hr Nat.prime_two).mp (hr.dvd_of_dvd_pow hdvd)
      have hquotient : c * Nat.pow 2 (k + 1) / 2 = c * Nat.pow 2 k := by
        rw [Nat.pow_eq, Nat.pow_eq, pow_succ, ← mul_assoc, Nat.mul_div_cancel _ (by decide)]
      rw [hquotient]
      exact mt (hunit _).mp hhalf

/-- The first factor of the sample is prime: three has the order of its units. -/
theorem prime_aboveTwoPower_89 : (aboveTwoPower 89 1537).Prime := by
  refine @prime_aboveTwoPower 3 89 _ (by norm_num) ?_ ?_ ?_
  · decide +kernel
  · decide +kernel
  · decide +kernel

/-- The second factor of the sample is prime: three has the order of its units. -/
theorem prime_aboveTwoPower_113 : (aboveTwoPower 113 1541).Prime := by
  refine @prime_aboveTwoPower 3 113 _ (by norm_num) ?_ ?_ ?_
  · decide +kernel
  · decide +kernel
  · decide +kernel

/-- A pair with a modulus of 3092 bits. -/
def samplePair : KeyPair :=
  { p := aboveTwoPower 89 1537, q := aboveTwoPower 113 1541 }

/-- The sample pair is sound. -/
theorem sound_samplePair : samplePair.Sound where
  p_prime := prime_aboveTwoPower_89
  q_prime := prime_aboveTwoPower_113
  p_odd := by decide +kernel
  q_odd := by decide +kernel
  distinct := by decide +kernel
  invertible := by decide +kernel
  bits_least := by decide +kernel
  bits_most := by decide +kernel

end AttestedModel.Rsa
