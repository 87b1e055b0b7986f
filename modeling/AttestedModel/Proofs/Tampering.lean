import AttestedModel.Proofs.BlockField
import AttestedModel.Proofs.ByteField
import AttestedModel.Proofs.EnvelopeCodec

/-!
# A ciphertext that was tampered with is refused

The tag hashes the blocks of the ciphertext one after the other: a block is added to
the hash so far, and the sum is multiplied with the encryption of zero.  If that is not
zero, no step forgets anything, so ciphertexts that differ in one block have different
hashes (`Ghash.eq_of_hash_eq`) and, under one nonce, different tags.  An envelope whose
ciphertext differs from what was sealed in one block, be it by a bit, does not open
(`decrypt_of_tampered_block`).
-/

namespace AttestedModel

namespace Bytes

/-- Whole pieces in front do not move the borders behind them. -/
theorem chunks_append {size : Nat} (hsize : 0 < size) {front : Bytes} (hfront : size ∣ front.length)
    (rest : Bytes) : chunks size (front ++ rest) = chunks size front ++ chunks size rest := by
  induction hn : front.length using Nat.strongRecOn generalizing front with
  | ind n ih =>
      by_cases hnil : front = []
      · simp [hnil]
      · have hpos := List.length_pos_iff.mpr hnil
        have hlong : size ≤ front.length := Nat.le_of_dvd hpos hfront
        have hdvd : size ∣ (front.drop size).length := by
          rw [List.length_drop]
          exact Nat.dvd_sub hfront (Nat.dvd_refl size)
        have hrest := ih (front.drop size).length (by simp; omega) hdvd rfl
        rw [chunks_of_ne_nil hsize (by simp [hnil]), chunks_of_ne_nil hsize hnil,
          List.take_append_of_le_length hlong, List.drop_append_of_le_length hlong, hrest]
        rfl

/-- A whole piece, or one at the end, is a piece of its own. -/
theorem chunks_piece_append {size : Nat} {piece rest : Bytes} (hne : piece ≠ [])
    (hpiece : piece.length = size ∨ piece.length ≤ size ∧ rest = []) :
    chunks size (piece ++ rest) = piece :: chunks size rest := by
  have hpos := List.length_pos_iff.mpr hne
  have hsize : 0 < size := by omega
  rw [chunks_of_ne_nil hsize (by simp [hne])]
  rcases hpiece with rfl | ⟨hshort, rfl⟩
  · rw [List.take_left, List.drop_left]
  · rw [List.append_nil, List.take_of_length_le hshort, List.drop_of_length_le hshort]

end Bytes

namespace Cipher

namespace Block

/-- Different blocks are written differently. -/
theorem toBytes_injective {x y : Block} (h : x.toBytes = y.toBytes) : x = y := by
  have hnumber := congrArg Bytes.toNat h
  rw [toBytes, toBytes, Bytes.toNat_ofNat_of_lt x.isLt, Bytes.toNat_ofNat_of_lt y.isLt] at hnumber
  exact BitVec.eq_of_toNat_eq hnumber

/-- A block tells the bytes that it was made of, if it is known how many. -/
theorem ofBytes_injective {as bs : Bytes} (hlength : as.length = bs.length)
    (hshort : bs.length ≤ 16) (h : ofBytes as = ofBytes bs) : as = bs := by
  have hfits : ∀ cs : Bytes, cs.length ≤ 16 →
      cs.toNat * Nat.pow 256 (16 - cs.length) < 2 ^ 128 := by
    intro cs hcs
    have hpos : 0 < 256 ^ (16 - cs.length) := by positivity
    calc cs.toNat * 256 ^ (16 - cs.length)
        < 256 ^ cs.length * 256 ^ (16 - cs.length) := Nat.mul_lt_mul_of_pos_right cs.toNat_lt hpos
      _ = 256 ^ 16 := by rw [← pow_add, Nat.add_sub_cancel' hcs]
      _ = 2 ^ 128 := by norm_num
  have hproduct := congrArg BitVec.toNat h
  rw [ofBytes, ofBytes, BitVec.toNat_ofNat, BitVec.toNat_ofNat, Nat.mod_eq_of_lt (hfits bs hshort),
    Nat.mod_eq_of_lt (hfits as (hlength ▸ hshort)), hlength] at hproduct
  have hnumber : as.toNat = bs.toNat :=
    Nat.eq_of_mul_eq_mul_right (Nat.pow_pos (by decide)) hproduct
  rw [← Bytes.ofNat_toNat as, ← Bytes.ofNat_toNat bs, hlength, hnumber]

end Block

namespace Ghash

variable {h : Block}

/-- The hash takes in one block after the other. -/
theorem hash_eq (h : Block) (blocks : List Block) :
    hash h blocks = blocks.foldl (fun y x => mul (y ^^^ x) h) 0 :=
  rfl

/-- No step forgets what was hashed before. -/
theorem foldl_injective (hne : h ≠ 0) (blocks : List Block) {x y : Block}
    (heq : blocks.foldl (fun y x => mul (y ^^^ x) h) x =
      blocks.foldl (fun y x => mul (y ^^^ x) h) y) : x = y := by
  induction blocks generalizing x y with
  | nil => exact heq
  | cons block blocks ih =>
      have hsum : x ^^^ block = y ^^^ block := mul_right_cancel hne (ih heq)
      exact (BitVec.xor_left_inj block).mp hsum

/-- **A block of a hash is told by the hash** and the other blocks. -/
theorem eq_of_hash_eq (hne : h ≠ 0) {front rest : List Block} {x y : Block}
    (heq : hash h (front ++ x :: rest) = hash h (front ++ y :: rest)) : x = y := by
  rw [hash_eq, hash_eq, List.foldl_append, List.foldl_append, List.foldl_cons,
    List.foldl_cons] at heq
  have hsum := mul_right_cancel hne (foldl_injective hne rest heq)
  exact (BitVec.xor_right_inj _).mp hsum

end Ghash

namespace Gcm

variable {cipher : Block → Block}

/-- **Tags tell apart what differs in one block.**  The block may be the last one and short. -/
theorem tag_ne_of_block (hhash : cipher 0 ≠ 0) (nonce : Bytes) {front piece other rest : Bytes}
    (hfront : 16 ∣ front.length) (hpiece : piece.length = 16 ∨ piece.length ≤ 16 ∧ rest = [])
    (hlength : other.length = piece.length) (hne : other ≠ piece) :
    tag cipher nonce (front ++ other ++ rest) ≠ tag cipher nonce (front ++ piece ++ rest) := by
  have hsplit : ∀ part : Bytes, part.length = piece.length →
      Bytes.chunks 16 (front ++ part ++ rest) =
        Bytes.chunks 16 front ++ part :: Bytes.chunks 16 rest := by
    intro part hpart
    have hsome : part ≠ [] := by
      rintro rfl
      have hnone : piece = [] := List.length_eq_zero_iff.mp hpart.symm
      rw [hnone] at hlength hne
      exact hne (List.length_eq_zero_iff.mp hlength)
    rw [List.append_assoc, Bytes.chunks_append (by decide) hfront,
      Bytes.chunks_piece_append hsome (by rw [hpart]; exact hpiece)]
  intro htags
  have hsum := Block.toBytes_injective htags
  rw [hsplit other hlength, hsplit piece rfl] at hsum
  have hsize : (front ++ other ++ rest).length = (front ++ piece ++ rest).length := by
    simp [hlength]
  have hhashes := (BitVec.xor_left_inj _).mp hsum
  rw [hsize] at hhashes
  simp only [List.map_append, List.map_cons, List.append_assoc, List.cons_append] at hhashes
  have hblock := Ghash.eq_of_hash_eq hhash hhashes
  refine hne (Block.ofBytes_injective hlength ?_ hblock)
  rcases hpiece with hfull | ⟨hshort, -⟩
  · exact hfull.le
  · exact hshort

end Gcm

end Cipher

namespace Envelope

/-- An envelope with a wrong tag does not open. -/
theorem Framed.decrypt_toBytes_of_ne {e : Envelope} (h : e.Framed) {key : Bytes}
    (hkey : supported key) (htag : e.tag ≠ Cipher.Gcm.tag (cipher key) e.iv e.ciphertext) :
    decrypt e.toBytes key = .error .authenticationFailure := by
  have hparse : parse e.toBytes = .ok e := parse_eq_ok_iff.mpr ⟨h, rfl⟩
  have hclosed : Cipher.Gcm.decrypt? (cipher key) e.iv e.ciphertext e.tag = none := by
    rw [Cipher.Gcm.decrypt?, if_neg htag]
  have hsome : ¬ e.toBytes.isEmpty := by
    rw [List.isEmpty_iff, ← List.length_eq_zero_iff, h.length_toBytes]
    omega
  have hkeyed : ¬ key.isEmpty := by
    intro hnone
    rw [List.isEmpty_iff.mp hnone] at hkey
    exact absurd hkey (by decide)
  rw [decrypt, if_neg hsome, if_neg hkeyed, hparse, hkey]
  dsimp only [Except.mapError, bind, Except.bind]
  rw [if_neg (by decide), hclosed]
  rfl

/-- An envelope with another piece in its ciphertext. -/
def replace (e : Envelope) (start : Nat) (block : Bytes) : Envelope :=
  { e with
    ciphertext := e.ciphertext.take start ++ block ++ e.ciphertext.drop (start + block.length) }

section Replace

variable {e : Envelope} {start : Nat} {block : Bytes}

/-- An envelope stays framed if a piece of its ciphertext is replaced by one as long. -/
theorem Framed.replace (h : e.Framed) (hfits : start + block.length ≤ e.ciphertext.length) :
    (e.replace start block).Framed where
  ivLen := h.ivLen
  tagLen := h.tagLen
  dataLen := by
    have hdata := h.dataLen
    simp only [Envelope.replace, List.length_append, List.length_take, List.length_drop]
    omega
  iv := h.iv
  tag := h.tag

/-- In the written form the piece stands 24 places later. -/
theorem Framed.toBytes_replace (h : e.Framed)
    (hfits : start + block.length ≤ e.ciphertext.length) :
    (e.replace start block).toBytes =
      e.toBytes.take (24 + start) ++ block ++ e.toBytes.drop (24 + start + block.length) := by
  have hbody : e.toBytes.drop 24 = e.ciphertext ++ e.tag := h.drop_toBytes.2
  have hfront : (e.header.toBytes ++ e.iv).length = 24 := by
    rw [List.length_append, Header.length_toBytes, h.iv]
    rfl
  have htake : e.toBytes.take (24 + start) =
      e.header.toBytes ++ e.iv ++ e.ciphertext.take start := by
    rw [toBytes, List.append_assoc, List.take_append, hfront, Nat.add_sub_cancel_left,
      List.take_of_length_le (by omega), List.take_append_of_le_length (by omega)]
  have hdrop : e.toBytes.drop (24 + start + block.length) =
      e.ciphertext.drop (start + block.length) ++ e.tag := by
    rw [Nat.add_assoc, ← List.drop_drop, hbody, List.drop_append_of_le_length hfits]
  rw [htake, hdrop]
  simp [toBytes, Envelope.replace]

/-- A piece of the ciphertext stands 24 bytes further on in the whole. -/
theorem Framed.piece_toBytes (h : e.Framed)
    (hfits : start + block.length ≤ e.ciphertext.length) :
    (e.toBytes.drop (24 + start)).take block.length =
      (e.ciphertext.drop start).take block.length := by
  have hbody : e.toBytes.drop 24 = e.ciphertext ++ e.tag := h.drop_toBytes.2
  rw [← List.drop_drop, hbody, List.drop_append_of_le_length (by omega),
    List.take_append_of_le_length (by simp; omega)]

/-- Another block in the ciphertext gives it another tag. -/
theorem Framed.decrypt_replace (h : e.Framed) {key : Bytes} (hkey : supported key)
    (hhash : cipher key 0 ≠ 0) (htag : e.tag = Cipher.Gcm.tag (cipher key) e.iv e.ciphertext)
    (hstart : 16 ∣ start) (hinside : start < e.ciphertext.length)
    (hblock : block.length = min 16 (e.ciphertext.length - start))
    (hne : block ≠ (e.ciphertext.drop start).take block.length) :
    decrypt (e.replace start block).toBytes key = .error .authenticationFailure := by
  have hfits : start + block.length ≤ e.ciphertext.length := by omega
  refine (h.replace hfits).decrypt_toBytes_of_ne hkey ?_
  generalize hpiece : (e.ciphertext.drop start).take block.length = piece at hne
  have hlength : piece.length = block.length := by
    rw [← hpiece, List.length_take_of_le]
    rw [List.length_drop]
    omega
  have hwhole : e.ciphertext =
      e.ciphertext.take start ++ piece ++ e.ciphertext.drop (start + block.length) := by
    rw [← hpiece, List.append_assoc, ← List.drop_drop, List.take_append_drop,
      List.take_append_drop]
  have hfront : 16 ∣ (e.ciphertext.take start).length := by
    rw [List.length_take_of_le hinside.le]
    exact hstart
  have hlast : piece.length = 16 ∨
      piece.length ≤ 16 ∧ e.ciphertext.drop (start + block.length) = [] := by
    rw [hlength, List.drop_eq_nil_iff]
    omega
  have htags := Cipher.Gcm.tag_ne_of_block hhash e.iv hfront hlast hlength.symm hne
  rw [← hwhole, ← htag] at htags
  exact htags.symm

end Replace

/-- A byte that is changed changes the block that it stands in. -/
theorem exists_block_of_modify {bytes : Bytes} {change : UInt8 → UInt8} {offset size position : Nat}
    (hchange : ∀ b, change b ≠ b) (hfrom : offset ≤ position) (hto : position < offset + size)
    (hsize : offset + size ≤ bytes.length) :
    ∃ i block, 16 * i < size ∧ block.length = min 16 (size - 16 * i) ∧
      block ≠ (bytes.drop (offset + 16 * i)).take block.length ∧
      bytes.modify position change =
        bytes.take (offset + 16 * i) ++ block ++ bytes.drop (offset + 16 * i + block.length) := by
  let i := (position - offset) / 16
  let start := offset + 16 * i
  let piece := (bytes.drop start).take (min 16 (size - 16 * i))
  have hinside : 16 * i < size ∧ start ≤ position ∧ position - start < min 16 (size - 16 * i) := by
    simp only [start, i]
    omega
  obtain ⟨hi, hstart, hposition⟩ := hinside
  have hpiece : piece.length = min 16 (size - 16 * i) := by
    simp only [piece]
    rw [List.length_take_of_le]
    rw [List.length_drop]
    omega
  refine ⟨i, piece.modify (position - start) change, hi, by rw [List.length_modify, hpiece], ?_, ?_⟩
  · rw [List.length_modify, hpiece]
    intro hsame
    have hbyte := congrArg (·[position - start]?) hsame
    rw [← hpiece] at hposition
    simp only [List.getElem?_modify] at hbyte
    rw [List.getElem?_eq_getElem hposition] at hbyte
    exact hchange _ (Option.some.inj hbyte)
  · rw [List.length_modify, hpiece]
    refine List.ext_getElem? fun j => ?_
    simp only [List.getElem?_modify, List.getElem?_append, List.getElem?_take, List.getElem?_drop,
      List.length_take, List.length_append, List.length_modify, List.length_drop, piece]
    grind

/-- A flipped bit is a change. -/
theorem flip_ne {bit : UInt8} (hbit : bit < 8) (b : UInt8) : b ^^^ (1 <<< bit) ≠ b := by
  have hmasks : ∀ n < 8, (1 : UInt8) <<< UInt8.ofNat n ≠ 0 := by decide
  have hmask := hmasks bit.toNat hbit
  rw [UInt8.ofNat_toNat] at hmask
  intro hsame
  exact hmask (by simpa using hsame)

/-- **A ciphertext that was tampered with is refused.**  Under a key that does not encrypt zero to
zero, every plaintext is sealed to an envelope with this property: other bytes of the same number
in the place of one block of the ciphertext, the last of which may be short, make it fail to
open.  So does one bit of the ciphertext that is flipped. -/
theorem decrypt_of_tampered_block {plaintext key iv : Bytes}
    (hkey : key.length = 16 ∨ key.length = 24 ∨ key.length = 32) (hhash : cipher key 0 ≠ 0)
    (hlength : plaintext.length < 2 ^ 32) (hiv : iv.length = 12) :
    ∃ sealed, encrypt plaintext key iv = .ok sealed ∧
      (∀ i (block : Bytes), 16 * i < plaintext.length →
        block.length = min 16 (plaintext.length - 16 * i) →
        block ≠ (sealed.drop (24 + 16 * i)).take block.length →
        decrypt (sealed.take (24 + 16 * i) ++ block ++ sealed.drop (24 + 16 * i + block.length))
          key = .error .authenticationFailure) ∧
      ∀ position (bit : UInt8), 24 ≤ position → position < 24 + plaintext.length → bit < 8 →
        decrypt (sealed.modify position (· ^^^ (1 <<< bit))) key =
          .error .authenticationFailure := by
  have hsupported : supported key := supported_iff.mpr hkey
  have hframed : (enclose plaintext key iv).Framed := framed_enclose hlength hiv
  have hsize : (enclose plaintext key iv).ciphertext.length = plaintext.length := by
    simp [Cipher.Gcm.encrypt]
  have htag : (enclose plaintext key iv).tag = Cipher.Gcm.tag (cipher key)
      (enclose plaintext key iv).iv (enclose plaintext key iv).ciphertext := rfl
  have hsealed : encrypt plaintext key iv = .ok (enclose plaintext key iv).toBytes :=
    encrypt_eq_ok_iff.mpr ⟨hlength, hsupported, rfl⟩
  generalize enclose plaintext key iv = e at hframed hsize htag hsealed
  have hblocks : ∀ i (block : Bytes), 16 * i < plaintext.length →
      block.length = min 16 (plaintext.length - 16 * i) →
      block ≠ (e.toBytes.drop (24 + 16 * i)).take block.length →
      decrypt (e.toBytes.take (24 + 16 * i) ++ block ++
        e.toBytes.drop (24 + 16 * i + block.length)) key = .error .authenticationFailure := by
    intro i block hi hblock hne
    rw [← hsize] at hi hblock
    have hfits : 16 * i + block.length ≤ e.ciphertext.length := by omega
    rw [hframed.piece_toBytes hfits] at hne
    rw [← hframed.toBytes_replace hfits]
    exact hframed.decrypt_replace hsupported hhash htag (Nat.dvd_mul_right 16 i) hi hblock hne
  refine ⟨e.toBytes, hsealed, hblocks, fun position bit hfrom hto hbit => ?_⟩
  obtain ⟨i, block, hi, hblock, hne, hflipped⟩ := exists_block_of_modify (flip_ne hbit) hfrom hto
    (by rw [hframed.length_toBytes, hsize]; omega)
  rw [hflipped]
  exact hblocks i block hi hblock hne

/-- Under the key of sixteen zeros, zero is not encrypted to zero but to this block. -/
theorem cipher_zeros :
    cipher (List.replicate 16 0) 0 = 0x66e94bd4ef8a2c3b884cfa59ca342b2e#128 := by
  simp only [cipher, Cipher.Aes.encrypt, Cipher.Aes.Schedule.ofKey, Cipher.Aes.expand_eq_iterate,
    Cipher.Aes.extend, Cipher.Aes.Square.substituted, Cipher.Aes.Column.substituted,
    Cipher.Aes.substitute_eq]
  decide +kernel

/-- The highest bit of the last of twenty bytes, sealed under that key, is flipped. -/
theorem decrypt_of_flipped_bit :
    ∃ sealed, encrypt (List.replicate 20 7) (List.replicate 16 0) (List.replicate 12 5) =
        .ok sealed ∧
      decrypt (sealed.modify 43 (· ^^^ (1 <<< (7 : UInt8)))) (List.replicate 16 0) =
        .error .authenticationFailure := by
  have hhash : cipher (List.replicate 16 0) 0 ≠ 0 := by
    rw [cipher_zeros]
    decide
  obtain ⟨sealed, hsealed, -, hflips⟩ := @decrypt_of_tampered_block (List.replicate 20 7)
    (List.replicate 16 0) (List.replicate 12 5) (by decide) hhash (by decide) (by decide)
  exact ⟨sealed, hsealed, hflips 43 7 (by decide) (by decide) (by decide)⟩

end Envelope

end AttestedModel
