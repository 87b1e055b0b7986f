import AttestedModel.Proofs.BlockPermutation
import AttestedModel.Proofs.Tampering

/-!
# An envelope with a foreign header, nonce, tag or length is refused

The header of a framed envelope is told by its length, so another header in front of
the same bytes frames nothing, and no framed envelope is the beginning of another one
(`Framed.eq_of_prefix`): bytes that are missing or too many are refused as such.

A foreign tag is no tag of the ciphertext.  Neither is the old tag under a foreign
nonce: the two tags hide one hash under the encryptions of two counter blocks, and the
cipher is one to one (`cipher_injective`).
-/

namespace AttestedModel

namespace Cipher.Gcm

/-- **Tags tell nonces apart** under a cipher that is one to one. -/
theorem tag_ne_of_nonce {cipher : Block → Block} (hcipher : Function.Injective cipher)
    {nonce other : Bytes} (hnonce : nonce.length = 12) (hother : other.length = 12)
    (hne : other ≠ nonce) (ciphertext : Bytes) :
    tag cipher nonce ciphertext ≠ tag cipher other ciphertext := by
  intro htags
  have hmasks := (BitVec.xor_right_inj _).mp (Block.toBytes_injective htags)
  have hblocks : start nonce = start other := hcipher hmasks
  have hlength : (nonce ++ [0, 0, 0, 1]).length = (other ++ [0, 0, 0, 1]).length := by
    simp [hnonce, hother]
  have hcounters := Block.ofBytes_injective hlength (by simp [hother]) hblocks
  exact hne (List.append_cancel_right hcounters).symm

end Cipher.Gcm

namespace Envelope

/-- **The block cipher of a key is one to one.** -/
theorem cipher_injective (key : Bytes) : Function.Injective (cipher key) := by
  intro x y h
  simp only [cipher] at h
  have hbytes := Cipher.Block.ofBytes_injective (by simp) (by simp) h
  have hsquares := Cipher.Aes.encrypt_injective _ (Cipher.Aes.Square.toBytes_injective hbytes)
  have hblocks := congrArg Cipher.Aes.Square.toBytes hsquares
  rw [Cipher.Aes.Square.toBytes_ofBytes x.length_toBytes,
    Cipher.Aes.Square.toBytes_ofBytes y.length_toBytes] at hblocks
  exact Cipher.Block.toBytes_injective hblocks

/-- Bytes that are no envelope are refused as such, if there are any. -/
theorem decrypt_of_parse_ne {bs key : Bytes} (hkey : supported key) (hbs : bs ≠ [])
    (hparse : ∀ e, parse bs ≠ .ok e) :
    ∃ fault : Fault, decrypt bs key = .error (.envelopeDecode fault.detail) := by
  have hsome : ¬ bs.isEmpty := fun hnone => hbs (List.isEmpty_iff.mp hnone)
  have hkeyed : ¬ key.isEmpty := by
    intro hnone
    rw [List.isEmpty_iff.mp hnone] at hkey
    exact absurd hkey (by decide)
  cases hfault : parse bs with
  | ok e => exact absurd hfault (hparse e)
  | error fault =>
      refine ⟨fault, ?_⟩
      rw [decrypt, if_neg hsome, if_neg hkeyed, hfault]
      rfl

/-- **No framed envelope is the beginning of another one.** -/
theorem Framed.eq_of_prefix {d e : Envelope} (hd : d.Framed) (he : e.Framed)
    (h : d.toBytes <+: e.toBytes) : d = e := by
  have hread : ∀ {c : Envelope}, Header.parse c.toBytes = .ok c.header := by
    intro c
    exact Header.parse_eq_ok_iff.mpr ⟨c.iv ++ c.ciphertext ++ c.tag, by simp [toBytes]⟩
  have hheader : d.header = e.header := by
    obtain ⟨rest, hrest⟩ := Header.parse_eq_ok_iff.mp (hread (c := d))
    obtain ⟨more, hmore⟩ := h
    have hsame : Header.parse e.toBytes = .ok d.header :=
      Header.parse_eq_ok_iff.mpr ⟨rest ++ more, by rw [← hmore, hrest, List.append_assoc]⟩
    exact Except.ok.inj (hsame.symm.trans hread)
  -- one header, one length
  have hlength : d.toBytes.length = e.toBytes.length := by
    rw [hd.length_toBytes, he.length_toBytes, ← hd.dataLen, ← he.dataLen, hheader]
  have hbytes := h.eq_of_length hlength
  have hparse : parse e.toBytes = .ok d := parse_eq_ok_iff.mpr ⟨hd, hbytes.symm⟩
  exact Except.ok.inj (hparse.symm.trans (parse_eq_ok_iff.mpr ⟨he, rfl⟩))

/-- The first 12 bytes of an envelope are its header. -/
theorem take_header (e : Envelope) : e.toBytes.take 12 = e.header.toBytes := by
  rw [toBytes, List.append_assoc, List.append_assoc]
  exact List.take_left' rfl

section Framed

variable {e : Envelope} (h : e.Framed)
include h

/-- A framed envelope without its last bytes is no envelope: its header says how long it is. -/
theorem Framed.parse_ne_of_shortened {n : Nat} (hn : n < e.toBytes.length) (d : Envelope) :
    parse (e.toBytes.take n) ≠ .ok d := by
  intro hparse
  obtain ⟨hd, hbytes⟩ := parse_eq_ok_iff.mp hparse
  have hsame := hd.eq_of_prefix h (hbytes ▸ List.take_prefix n e.toBytes)
  have hlength := congrArg List.length hbytes
  rw [hsame, List.length_take] at hlength
  omega

/-- A framed envelope with bytes behind it is no envelope. -/
theorem Framed.parse_ne_of_extended {more : Bytes} (hmore : more ≠ []) (d : Envelope) :
    parse (e.toBytes ++ more) ≠ .ok d := by
  intro hparse
  obtain ⟨hd, hbytes⟩ := parse_eq_ok_iff.mp hparse
  have hsame := h.eq_of_prefix hd (hbytes ▸ List.prefix_append e.toBytes more)
  rw [hsame] at hbytes
  exact hmore (List.append_right_eq_self.mp hbytes)

/-- A framed envelope under another header is no envelope. -/
theorem Framed.parse_ne_of_header {header : Bytes} (hlength : header.length = 12)
    (hne : header ≠ e.toBytes.take 12) (d : Envelope) :
    parse (header ++ e.toBytes.drop 12) ≠ .ok d := by
  intro hparse
  obtain ⟨hd, hbytes⟩ := parse_eq_ok_iff.mp hparse
  have hsize := congrArg List.length hbytes
  rw [List.length_append, List.length_drop, hlength, hd.length_toBytes, h.length_toBytes] at hsize
  -- the same length leaves only the header that was there
  have hheader := hd.header_eq h (by omega)
  have hfront := congrArg (List.take 12) hbytes
  rw [List.take_left' hlength, take_header, hheader, ← take_header] at hfront
  exact hne hfront

variable {key : Bytes} (hkey : supported key)
  (htag : e.tag = Cipher.Gcm.tag (cipher key) e.iv e.ciphertext)
include hkey htag

/-- Under another nonce another tag belongs to the ciphertext, so the old one is refused. -/
theorem Framed.decrypt_of_nonce {iv : Bytes} (hlength : iv.length = 12) (hne : iv ≠ e.iv) :
    decrypt (e.toBytes.take 12 ++ iv ++ e.toBytes.drop 24) key = .error .authenticationFailure := by
  have hframed : ({ e with iv } : Envelope).Framed :=
    { ivLen := h.ivLen, tagLen := h.tagLen, dataLen := h.dataLen, iv := hlength, tag := h.tag }
  have hbytes : ({ e with iv } : Envelope).toBytes =
      e.toBytes.take 12 ++ iv ++ e.toBytes.drop 24 := by
    have hbody : e.toBytes.drop 24 = e.ciphertext ++ e.tag := h.drop_toBytes.2
    rw [take_header, hbody]
    simp [toBytes]
  rw [← hbytes]
  refine hframed.decrypt_toBytes_of_ne hkey ?_
  rw [htag]
  exact Cipher.Gcm.tag_ne_of_nonce (cipher_injective key) h.iv hlength hne e.ciphertext

/-- A tag other than the one that belongs to the ciphertext is refused. -/
theorem Framed.decrypt_of_tag {tag : Bytes} (hlength : tag.length = 16) (hne : tag ≠ e.tag) :
    decrypt (e.toBytes.take (e.toBytes.length - 16) ++ tag) key =
      .error .authenticationFailure := by
  have hframed : ({ e with tag } : Envelope).Framed :=
    { ivLen := h.ivLen, tagLen := h.tagLen, dataLen := h.dataLen, iv := h.iv, tag := hlength }
  have hfront : e.toBytes.take (e.toBytes.length - 16) =
      e.header.toBytes ++ e.iv ++ e.ciphertext := by
    rw [toBytes, List.length_append, h.tag, tagLength, Nat.add_sub_cancel, List.take_left]
  rw [hfront]
  refine hframed.decrypt_toBytes_of_ne hkey ?_
  rw [← htag]
  exact hne

end Framed

/-- **An envelope with a foreign header, nonce, tag or length is refused.**  Every plaintext is
sealed to an envelope with this property, whatever the key and the nonce are.  Twelve other bytes
in the place of its header, and any bytes that are missing at its end or stand behind it, make it no
envelope; twelve other bytes in the place of its nonce, or sixteen in the place of its tag, make it
fail to open; and if nothing is left of it, that is an invalid argument. -/
theorem decrypt_of_foreign_part {plaintext key iv : Bytes}
    (hkey : key.length = 16 ∨ key.length = 24 ∨ key.length = 32)
    (hlength : plaintext.length < 2 ^ 32) (hiv : iv.length = 12) :
    ∃ sealed, encrypt plaintext key iv = .ok sealed ∧
      (∀ header : Bytes, header.length = 12 → header ≠ sealed.take 12 →
        ∃ fault : Fault, decrypt (header ++ sealed.drop 12) key =
          .error (.envelopeDecode fault.detail)) ∧
      (∀ nonce : Bytes, nonce.length = 12 → nonce ≠ (sealed.drop 12).take 12 →
        decrypt (sealed.take 12 ++ nonce ++ sealed.drop 24) key =
          .error .authenticationFailure) ∧
      (∀ tag : Bytes, tag.length = 16 → tag ≠ sealed.drop (sealed.length - 16) →
        decrypt (sealed.take (sealed.length - 16) ++ tag) key = .error .authenticationFailure) ∧
      (∀ n, 0 < n → n < sealed.length →
        ∃ fault : Fault, decrypt (sealed.take n) key = .error (.envelopeDecode fault.detail)) ∧
      (∀ more : Bytes, more ≠ [] →
        ∃ fault : Fault, decrypt (sealed ++ more) key = .error (.envelopeDecode fault.detail)) ∧
      ∃ detail, decrypt (sealed.take 0) key = .error (.invalidArgument detail) := by
  have hsupported : supported key := supported_iff.mpr hkey
  have hframed : (enclose plaintext key iv).Framed := framed_enclose hlength hiv
  have htag : (enclose plaintext key iv).tag = Cipher.Gcm.tag (cipher key)
      (enclose plaintext key iv).iv (enclose plaintext key iv).ciphertext := rfl
  have hsealed : encrypt plaintext key iv = .ok (enclose plaintext key iv).toBytes :=
    encrypt_eq_ok_iff.mpr ⟨hlength, hsupported, rfl⟩
  generalize enclose plaintext key iv = e at hframed htag hsealed
  have hsize := hframed.length_toBytes
  have hlast : e.toBytes.drop (e.toBytes.length - 16) = e.tag := by
    rw [toBytes, List.length_append, hframed.tag, tagLength, Nat.add_sub_cancel, List.drop_left]
  refine ⟨e.toBytes, hsealed, ?_, ?_, ?_, ?_, ?_, ⟨_, rfl⟩⟩
  · intro header hheader hne
    refine decrypt_of_parse_ne hsupported ?_ (hframed.parse_ne_of_header hheader hne)
    exact List.ne_nil_of_length_pos (by simp [hheader])
  · intro nonce hnonce hne
    rw [show (e.toBytes.drop 12).take 12 = e.iv from hframed.nonce_toBytes] at hne
    exact hframed.decrypt_of_nonce hsupported htag hnonce hne
  · intro tag htagLength hne
    rw [hlast] at hne
    exact hframed.decrypt_of_tag hsupported htag htagLength hne
  · intro n hpos hn
    refine decrypt_of_parse_ne hsupported ?_ (hframed.parse_ne_of_shortened hn)
    exact List.ne_nil_of_length_pos (by rw [List.length_take]; omega)
  · intro more hmore
    refine decrypt_of_parse_ne hsupported ?_ (hframed.parse_ne_of_extended hmore)
    exact List.append_ne_nil_of_right_ne_nil _ hmore

/-- Twenty bytes, sealed under a key of 32, do not open under another nonce. -/
theorem decrypt_of_other_nonce :
    ∃ sealed, encrypt (List.replicate 20 7) (List.replicate 32 1) (List.replicate 12 5) =
        .ok sealed ∧
      decrypt (sealed.take 12 ++ List.replicate 12 6 ++ sealed.drop 24) (List.replicate 32 1) =
        .error .authenticationFailure := by
  obtain ⟨sealed, hsealed, -, hnonces, -⟩ := @decrypt_of_foreign_part (List.replicate 20 7)
    (List.replicate 32 1) (List.replicate 12 5) (by decide) (by decide) (by decide)
  refine ⟨sealed, hsealed, hnonces (List.replicate 12 6) (by decide) ?_⟩
  obtain ⟨-, -, rfl⟩ := encrypt_eq_ok_iff.mp hsealed
  have hframed := @framed_enclose (List.replicate 20 7) (List.replicate 32 1)
    (List.replicate 12 5) (by decide) (by decide)
  intro hsame
  have hnonces : List.replicate 12 (6 : UInt8) = List.replicate 12 5 :=
    hsame.trans hframed.nonce_toBytes
  exact absurd hnonces (by decide)

end Envelope

end AttestedModel
