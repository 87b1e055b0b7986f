import AttestedModel.Proofs.KeyWrapping

/-!
# What the pair unwraps was wrapped for it

Unwrapping refuses every byte string that wrapping does not write.  A padded
string from which a message is read is the padding of that message under the seed
that the two masks lead back to (`Oaep.encode_of_decode?`), and the public exponent
undoes the private one (`KeyPair.Sound.powMod_privateExponent`).  Together with the
other direction, unwrapping and wrapping are inverse to each other, for messages of
every length that is wrapped at all (`KeyPair.unwrap_eq_ok_iff_wrap`).
-/

namespace AttestedModel.Rsa

namespace Oaep

variable {block padded message : Bytes}

/-- A block that holds a message is the digest of the empty label, zeros, a one, and the message. -/
theorem eq_append_of_message? (h : message? block = some message) :
    ∃ zeros, block = Digest.sha256 [] ++ List.replicate zeros 0 ++ 1 :: message := by
  unfold message? at h
  split at h
  · cases h
  · rename_i hlabel
    rw [not_not] at hlabel
    have hsplit := (block.drop digestLength).takeWhile_append_dropWhile (p := (· = 0))
    have hzeros : (block.drop digestLength).takeWhile (· = 0) =
        List.replicate ((block.drop digestLength).takeWhile (· = 0)).length 0 := by
      refine List.eq_replicate_iff.mpr ⟨rfl, fun b hb => ?_⟩
      simpa using List.mem_takeWhile_imp hb
    split at h
    · rename_i rest hrest
      cases h
      refine ⟨((block.drop digestLength).takeWhile (· = 0)).length, ?_⟩
      rw [← hzeros, ← hrest, List.append_assoc, hsplit, ← hlabel, List.take_append_drop]
    · cases h

/-- A block that holds a message is its data block at the width that the block has. -/
theorem eq_dataBlock_of_message? (h : message? block = some message) :
    message.length + overhead ≤ block.length + 33 ∧
      block = dataBlock (block.length + 33) message := by
  obtain ⟨zeros, rfl⟩ := eq_append_of_message? h
  have hlength : (Digest.sha256 [] ++ List.replicate zeros 0 ++ 1 :: message).length + 33 =
      zeros + overhead + message.length := by
    simp only [List.length_append, List.length_cons, List.length_replicate, Digest.length_sha256,
      overhead, digestLength]
    omega
  rw [hlength]
  refine ⟨by omega, ?_⟩
  rw [dataBlock,
    show zeros + overhead + message.length - overhead - message.length = zeros by omega]

/-- **A padded string is the padding of the message that is read from it**, under some seed. -/
theorem encode_of_decode? (h : decode? padded = some message) :
    ∃ seed : Bytes, seed.length = digestLength ∧ message.length + overhead ≤ padded.length ∧
      encode padded.length seed message = padded := by
  unfold decode? at h
  split at h
  · rename_i rest
    dsimp only at h
    generalize hmasked : rest.drop digestLength = masked at h
    generalize hseed : Bytes.xor (rest.take digestLength) (mask masked digestLength) = seed at h
    obtain ⟨hroom, hblock⟩ := eq_dataBlock_of_message? h
    have hlength : (Bytes.xor masked (mask seed masked.length)).length = masked.length := by
      rw [Bytes.length_xor, length_mask, Nat.min_self]
    rw [hlength] at hroom hblock
    have hrest : rest.length = digestLength + masked.length := by
      have hdrop : masked.length = rest.length - digestLength := by
        rw [← hmasked, List.length_drop]
      simp only [overhead, digestLength] at hroom hdrop ⊢
      omega
    have hwidth : (0 :: rest).length = masked.length + 33 := by
      rw [List.length_cons, hrest, digestLength]
      omega
    have hfront : (rest.take digestLength).length = digestLength := by
      rw [List.length_take, hrest]
      omega
    -- Each mask is laid on a second time, and leaves what stood under it.
    have hmaskedBack : Bytes.xor (dataBlock (masked.length + 33) message)
        (mask seed (dataBlock (masked.length + 33) message).length) = masked := by
      rw [← hblock, hlength]
      exact Bytes.xor_xor (by rw [length_mask])
    have hseedBack : Bytes.xor seed (mask masked digestLength) = rest.take digestLength := by
      rw [← hseed]
      exact Bytes.xor_xor (by rw [length_mask, hfront])
    refine ⟨seed, ?_, by rw [hwidth]; exact hroom, ?_⟩
    · rw [← hseed, Bytes.length_xor, length_mask, hfront, Nat.min_self]
    · rw [hwidth]
      simp only [encode, hmaskedBack, hseedBack]
      rw [← hmasked, List.cons_append, List.take_append_drop]
  · cases h

end Oaep

namespace KeyPair

variable {pair : KeyPair} {message wrapped seed : Bytes}

/-- **The public exponent undoes the private one**, on every number below the modulus. -/
theorem Sound.powMod_privateExponent (h : pair.Sound) {x : Nat} (hx : x < pair.p * pair.q) :
    powMod (powMod x pair.privateExponent (pair.p * pair.q)) publicExponent (pair.p * pair.q) =
      x := by
  rw [powMod_eq, powMod_eq, ← Nat.pow_mod, ← pow_mul, Nat.mul_comm pair.privateExponent]
  exact Eq.trans (h.pow_exponents x) (Nat.mod_eq_of_lt hx)

/-- A message is wrapped for a pair exactly if the padding has room for it, and then to the public
power of its padding. -/
theorem Sound.wrap_eq_ok_iff (h : pair.Sound) :
    wrap pair.publicKeyDer message seed = .ok wrapped ↔
      message.length + Oaep.overhead ≤ pair.publicKey.size ∧
        wrapped = Bytes.ofNat pair.publicKey.size
          (powMod (Bytes.toNat (Oaep.encode pair.publicKey.size seed message)) publicExponent
            (pair.p * pair.q)) := by
  rw [wrap, publicKeyDer, PublicKey.ofDer?_toDer h.usable]
  simp only [PublicKey.encrypt]
  split
  · simp only [reduceCtorEq, false_iff]
    omega
  · rename_i hshort
    exact ⟨fun hwrapped => ⟨by omega, (Except.ok.inj hwrapped).symm⟩,
      fun hwrapped => congrArg Except.ok hwrapped.2.symm⟩

/-- **What a pair unwraps was wrapped for it**, with a seed of its own. -/
theorem Sound.wrap_of_unwrap (h : pair.Sound) (hunwrap : pair.unwrap wrapped = .ok message) :
    ∃ seed : Bytes, seed.length = Oaep.digestLength ∧
      wrap pair.publicKeyDer message seed = .ok wrapped := by
  obtain ⟨hlength, hbelow, hdecode⟩ := decrypt?_eq_some_iff.mp (unwrap_eq_ok_iff.mp hunwrap)
  obtain ⟨seed, hseed, hroom, hencode⟩ := Oaep.encode_of_decode? hdecode
  rw [Bytes.length_ofNat] at hroom hencode
  have hpadded : powMod wrapped.toNat pair.privateExponent (pair.p * pair.q) <
      256 ^ pair.publicKey.size := by
    refine lt_trans ?_ (Der.lt_pow_byteSize (pair.p * pair.q))
    rw [powMod_eq]
    exact Nat.mod_lt _ h.modulus_pos
  refine ⟨seed, hseed, h.wrap_eq_ok_iff.mpr ⟨hroom, ?_⟩⟩
  rw [hencode, Bytes.toNat_ofNat_of_lt hpadded, h.powMod_privateExponent hbelow, ← hlength,
    Bytes.ofNat_toNat]

/-- **Wrapping and unwrapping are inverse to each other.**  A sound pair unwraps a byte string to a
message if and only if some seed of 32 bytes wraps the message to that string under the pair's own
document.  A message is wrapped exactly if it is at least 66 bytes shorter than the modulus; what
it is wrapped to is as long as the modulus, and is unwrapped to the message, whatever the seed. -/
theorem unwrap_eq_ok_iff_wrap (pair : KeyPair) (h : pair.Sound) :
    (∀ wrapped message : Bytes, pair.unwrap wrapped = .ok message ↔
      ∃ seed : Bytes, seed.length = 32 ∧ wrap pair.publicKeyDer message seed = .ok wrapped) ∧
    (∀ message seed : Bytes, seed.length = 32 →
      ((∃ wrapped, wrap pair.publicKeyDer message seed = .ok wrapped) ↔
        message.length ≤ pair.publicKey.size - 66) ∧
      (∀ wrapped, wrap pair.publicKeyDer message seed = .ok wrapped →
        wrapped.length = pair.publicKey.size ∧ pair.unwrap wrapped = .ok message)) := by
  have hback : ∀ wrapped message seed : Bytes, seed.length = 32 →
      wrap pair.publicKeyDer message seed = .ok wrapped →
        wrapped.length = pair.publicKey.size ∧ pair.unwrap wrapped = .ok message := by
    intro wrapped message seed hseed hwrap
    obtain ⟨hroom, hwritten⟩ := h.wrap_eq_ok_iff.mp hwrap
    obtain ⟨wrapped', hwrap', hunwrap⟩ := h.unwrap_wrap hseed hroom
    obtain rfl : wrapped = wrapped' := Except.ok.inj (hwrap.symm.trans hwrap')
    exact ⟨by rw [hwritten, Bytes.length_ofNat], hunwrap⟩
  refine ⟨fun wrapped message => ⟨h.wrap_of_unwrap, ?_⟩, fun message seed hseed => ⟨?_, ?_⟩⟩
  · rintro ⟨seed, hseed, hwrap⟩
    exact (hback wrapped message seed hseed hwrap).2
  · have hsize := h.size_least
    have hroom : message.length + Oaep.overhead ≤ pair.publicKey.size ↔
        message.length ≤ pair.publicKey.size - 66 := by
      simp only [Oaep.overhead, Oaep.digestLength]
      omega
    rw [← hroom]
    refine ⟨?_, fun hshort => ⟨_, h.wrap_eq_ok_iff.mpr ⟨hshort, rfl⟩⟩⟩
    rintro ⟨wrapped, hwrap⟩
    exact (h.wrap_eq_ok_iff.mp hwrap).1
  · exact fun wrapped => hback wrapped message seed hseed

/-- The longest message that the pair of 3092 bits wraps, and one that is too long by a byte. -/
theorem unwrap_wrap_longest :
    samplePair.Sound ∧
    (∃ wrapped : Bytes,
      wrap samplePair.publicKeyDer (List.replicate 321 7) (List.replicate 32 9) = .ok wrapped ∧
        wrapped.length = samplePair.publicKey.size ∧
        samplePair.unwrap wrapped = .ok (List.replicate 321 7)) ∧
    ¬∃ wrapped : Bytes,
      wrap samplePair.publicKeyDer (List.replicate 322 7) (List.replicate 32 9) = .ok wrapped := by
  have hsize : samplePair.publicKey.size = 387 := by decide +kernel
  have hinverse := unwrap_eq_ok_iff_wrap samplePair sound_samplePair
  have hlongest := hinverse.2 (List.replicate 321 7) (List.replicate 32 9) (by simp)
  have hlonger := hinverse.2 (List.replicate 322 7) (List.replicate 32 9) (by simp)
  obtain ⟨wrapped, hwrap⟩ := hlongest.1.mpr (by rw [List.length_replicate, hsize])
  refine ⟨sound_samplePair, ⟨wrapped, hwrap, hlongest.2 wrapped hwrap⟩, fun hwrapped => ?_⟩
  have hshort := hlonger.1.mp hwrapped
  rw [List.length_replicate, hsize] at hshort
  omega

end KeyPair

end AttestedModel.Rsa
