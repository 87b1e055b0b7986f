import AttestedModel.Envelope
import AttestedModel.Proofs.CounterMode
import AttestedModel.Proofs.Results

/-!
# The envelope codec accepts exactly what it produces

An envelope is `Framed` if its parts are as long as its header says.  Bytes parse
as an envelope exactly if it is framed and they are its written form
(`parse_eq_ok_iff`), so nothing is lost between the two.  With the involution of
counter mode this gives the acceptance set of `decrypt`: the outputs of `encrypt`
for the nonce that stands in them, and nothing else.
-/

namespace AttestedModel.Envelope

@[simp] theorem Header.length_toBytes (h : Header) : h.toBytes.length = 12 :=
  rfl

/-- A written header reads as itself, whatever follows it. -/
theorem Header.parse_toBytes (h : Header) (rest : Bytes) :
    Header.parse (h.toBytes ++ rest) = .ok h := by
  simp [Header.toBytes, Bytes.ofWord32, Header.parse, Bytes.word32_ofWord32]

/-- Bytes read as a header exactly if it is written in front. -/
theorem Header.parse_eq_ok_iff {bs : Bytes} {h : Header} :
    Header.parse bs = .ok h ↔ ∃ rest, bs = h.toBytes ++ rest := by
  constructor
  · intro hparse
    unfold Header.parse at hparse
    split at hparse
    · rename_i rest
      obtain rfl := Except.ok.inj hparse
      exact ⟨rest, by simp [Header.toBytes, Bytes.ofWord32_word32]⟩
    · exact absurd hparse nofun
  · intro hwritten
    obtain ⟨rest, rfl⟩ := hwritten
    exact h.parse_toBytes rest

/-- The parts of an envelope are as long as its header says, and of the one length that
nonce and tag may have. -/
structure Framed (e : Envelope) : Prop where
  ivLen : e.header.ivLen.toNat = ivLength
  tagLen : e.header.tagLen.toNat = tagLength
  dataLen : e.header.dataLen.toNat = e.ciphertext.length
  iv : e.iv.length = ivLength
  tag : e.tag.length = tagLength

/-- A framed envelope is 40 bytes longer than its ciphertext. -/
theorem Framed.length_toBytes {e : Envelope} (h : e.Framed) :
    e.toBytes.length = e.ciphertext.length + 40 := by
  have hiv := h.iv
  have htag := h.tag
  simp only [ivLength, tagLength] at hiv htag
  simp only [toBytes, List.length_append, Header.length_toBytes]
  omega

/-- Behind the header of an envelope stand its nonce, its ciphertext and its tag. -/
theorem Framed.drop_toBytes {e : Envelope} (h : e.Framed) :
    e.toBytes.drop headerLength = e.iv ++ (e.ciphertext ++ e.tag) ∧
      e.toBytes.drop (headerLength + ivLength) = e.ciphertext ++ e.tag := by
  have hheader : e.toBytes.drop headerLength = e.iv ++ (e.ciphertext ++ e.tag) := by
    rw [toBytes, List.append_assoc, List.append_assoc]
    exact List.drop_left' rfl
  refine ⟨hheader, ?_⟩
  rw [← List.drop_drop, hheader]
  exact List.drop_left' h.iv

/-- **Framing is exact.**  Bytes parse as an envelope exactly if it is framed and they are
its written form. -/
theorem parse_eq_ok_iff {bs : Bytes} {e : Envelope} :
    parse bs = .ok e ↔ e.Framed ∧ bs = e.toBytes := by
  simp only [parse, bind_eq_ok_iff, Header.parse_eq_ok_iff, throw_bind, guard_eq_ok_iff,
    pure_eq_ok_iff, not_not]
  constructor
  · intro hsteps
    obtain ⟨header, ⟨rest, rfl⟩, hiv, htag, hshort, hdata, rfl⟩ := hsteps
    have hfront : (header.toBytes ++ rest).drop headerLength = rest := List.drop_left' rfl
    have hbody : (header.toBytes ++ rest).drop (headerLength + ivLength) = rest.drop ivLength := by
      rw [← List.drop_drop, hfront]
    -- The total length leaves room for nonce and tag, so no subtraction is cut off.
    have hlength : 12 ≤ rest.length ∧ rest.length - 12 - tagLength + tagLength = rest.length - 12 := by
      simp only [List.length_append, Header.length_toBytes, headerLength, ivLength, tagLength]
        at hshort ⊢
      omega
    rw [hbody] at hdata
    rw [hfront, hbody]
    refine ⟨⟨hiv, htag, ?_, ?_, ?_⟩, ?_⟩
    · rw [hdata, List.length_take]
      omega
    · rw [List.length_take]
      exact Nat.min_eq_left hlength.1
    · rw [List.length_drop, List.length_drop, ivLength]
      omega
    · simp only [toBytes, List.append_assoc, List.take_append_drop]
  · intro hwritten
    obtain ⟨hframed, rfl⟩ := hwritten
    obtain ⟨hdrop, hbody⟩ := hframed.drop_toBytes
    have hlength : (e.ciphertext ++ e.tag).length - tagLength = e.ciphertext.length := by
      rw [List.length_append, hframed.tag, Nat.add_sub_cancel]
    refine ⟨e.header, ⟨e.iv ++ e.ciphertext ++ e.tag, by simp [toBytes]⟩, hframed.ivLen,
      hframed.tagLen, ?_, ?_, ?_⟩
    · rw [hframed.length_toBytes]
      simp only [headerLength, ivLength, tagLength]
      omega
    · rw [hbody, hlength]
      exact hframed.dataLen
    · rw [hdrop, hbody, hlength, List.take_left' hframed.iv, List.take_left, List.drop_left]

/-- The envelope of a plaintext under a key and a nonce. -/
def enclose (plaintext key iv : Bytes) : Envelope :=
  let (ciphertext, tag) := Cipher.Gcm.encrypt (cipher key) iv plaintext
  { header := ⟨ivLength.toUInt32, tagLength.toUInt32, plaintext.length.toUInt32⟩,
    iv, ciphertext, tag }

@[simp] theorem ciphertext_enclose (plaintext key iv : Bytes) :
    (enclose plaintext key iv).ciphertext = (Cipher.Gcm.encrypt (cipher key) iv plaintext).1 :=
  rfl

@[simp] theorem tag_enclose (plaintext key iv : Bytes) :
    (enclose plaintext key iv).tag = (Cipher.Gcm.encrypt (cipher key) iv plaintext).2 :=
  rfl

/-- A plaintext of less than 4 GiB under a supported key, and nothing else, is encrypted. -/
theorem encrypt_eq_ok_iff {plaintext key iv bs : Bytes} :
    encrypt plaintext key iv = .ok bs ↔
      plaintext.length < 2 ^ 32 ∧ supported key ∧ (enclose plaintext key iv).toBytes = bs := by
  simp only [encrypt, throw_bind, guard_eq_ok_iff, pure_eq_ok_iff]
  simp [enclose]

/-- Decryption parses and then opens.  The checks for an empty envelope and an empty key
refuse nothing that would not be refused anyway. -/
theorem decrypt_eq_ok_iff {bs key plaintext : Bytes} :
    decrypt bs key = .ok plaintext ↔
      ∃ e, parse bs = .ok e ∧ supported key ∧
        Cipher.Gcm.decrypt? (cipher key) e.iv e.ciphertext e.tag = some plaintext := by
  simp only [decrypt, throw_bind, guard_eq_ok_iff, bind_eq_ok_iff, mapError_eq_ok_iff,
    Bool.not_eq_true, Bool.not_eq_false']
  constructor
  · intro hsteps
    obtain ⟨-, -, e, hparse, hkey, hopen⟩ := hsteps
    refine ⟨e, hparse, hkey, ?_⟩
    cases hplain : Cipher.Gcm.decrypt? (cipher key) e.iv e.ciphertext e.tag with
    | none =>
        rw [hplain] at hopen
        exact absurd hopen throw_ne_ok
    | some p =>
        rw [hplain] at hopen
        exact congrArg some (pure_eq_ok_iff.mp hopen)
  · intro hopened
    obtain ⟨e, hparse, hkey, hplain⟩ := hopened
    refine ⟨?_, ?_, e, hparse, hkey, ?_⟩
    · cases bs with
      | nil => exact absurd hparse nofun
      | cons b bs => rfl
    · cases key with
      | nil => exact absurd hkey nofun
      | cons b key => rfl
    · rw [hplain]
      rfl

/-- What seals a plaintext is framed. -/
theorem framed_enclose {plaintext key iv : Bytes} (hlength : plaintext.length < 2 ^ 32)
    (hiv : iv.length = ivLength) : (enclose plaintext key iv).Framed where
  ivLen := rfl
  tagLen := rfl
  dataLen := by
    simp only [enclose, Cipher.Gcm.encrypt, Cipher.Gcm.length_stream, Nat.toUInt32]
    exact Nat.mod_eq_of_lt hlength
  iv := hiv
  tag := Cipher.Gcm.length_tag ..

/-- A framed envelope's header is told from the length of its ciphertext. -/
theorem Framed.header_eq {d e : Envelope} (hd : d.Framed) (he : e.Framed)
    (hlength : d.ciphertext.length = e.ciphertext.length) : d.header = e.header := by
  obtain ⟨⟨dIv, dTag, dData⟩, _, _, _⟩ := d
  obtain ⟨⟨eIv, eTag, eData⟩, _, _, _⟩ := e
  have h1 : dIv = eIv := UInt32.toNat_inj.mp (hd.ivLen.trans he.ivLen.symm)
  have h2 : dTag = eTag := UInt32.toNat_inj.mp (hd.tagLen.trans he.tagLen.symm)
  have h3 : dData = eData :=
    UInt32.toNat_inj.mp (hd.dataLen.trans (hlength.trans he.dataLen.symm))
  rw [h1, h2, h3]

/-- A framed envelope is told from its nonce, its ciphertext and its tag. -/
theorem Framed.ext {d e : Envelope} (hd : d.Framed) (he : e.Framed) (hiv : d.iv = e.iv)
    (hciphertext : d.ciphertext = e.ciphertext) (htag : d.tag = e.tag) : d = e := by
  have hheader := hd.header_eq he (congrArg List.length hciphertext)
  obtain ⟨_, _, _, _⟩ := d
  obtain ⟨_, _, _, _⟩ := e
  obtain rfl : _ = _ := hheader
  obtain rfl : _ = _ := hiv
  obtain rfl : _ = _ := hciphertext
  obtain rfl : _ = _ := htag
  rfl

/-- A framed envelope opens to a plaintext exactly if the plaintext, sealed under the
envelope's own nonce, is the envelope. -/
theorem Framed.decrypt?_eq_some_iff {e : Envelope} (h : e.Framed) {key plaintext : Bytes} :
    Cipher.Gcm.decrypt? (cipher key) e.iv e.ciphertext e.tag = some plaintext ↔
      plaintext.length < 2 ^ 32 ∧ enclose plaintext key e.iv = e := by
  rw [Cipher.Gcm.decrypt?_eq_some_iff]
  constructor
  · intro hseal
    have hciphertext : (enclose plaintext key e.iv).ciphertext = e.ciphertext := by
      rw [ciphertext_enclose, hseal]
    have htag : (enclose plaintext key e.iv).tag = e.tag := by
      rw [tag_enclose, hseal]
    have hlength : plaintext.length = e.ciphertext.length := by
      rw [← hciphertext, ciphertext_enclose, Cipher.Gcm.encrypt, Cipher.Gcm.length_stream]
    -- The length is read from a word of the header, which bounds it.
    have hshort : plaintext.length < 2 ^ 32 := by
      rw [hlength, ← h.dataLen]
      exact e.header.dataLen.toNat_lt
    exact ⟨hshort, (framed_enclose hshort h.iv).ext h rfl hciphertext htag⟩
  · intro hsealed
    obtain ⟨-, hseal⟩ := hsealed
    have hciphertext := congrArg Envelope.ciphertext hseal
    have htag := congrArg Envelope.tag hseal
    rw [ciphertext_enclose] at hciphertext
    rw [tag_enclose] at htag
    exact Prod.ext hciphertext htag

/-- Bytes decrypt to a plaintext exactly if they are its written envelope under the nonce
that stands in them. -/
theorem decrypt_eq_ok_iff_enclose {bs key plaintext : Bytes} :
    decrypt bs key = .ok plaintext ↔
      ∃ iv : Bytes, iv.length = ivLength ∧ plaintext.length < 2 ^ 32 ∧ supported key ∧
        (enclose plaintext key iv).toBytes = bs := by
  simp only [decrypt_eq_ok_iff, parse_eq_ok_iff]
  constructor
  · intro hopened
    obtain ⟨e, ⟨hframed, rfl⟩, hkey, hopen⟩ := hopened
    obtain ⟨hshort, hseal⟩ := hframed.decrypt?_eq_some_iff.mp hopen
    exact ⟨e.iv, hframed.iv, hshort, hkey, by rw [hseal]⟩
  · intro hsealed
    obtain ⟨iv, hiv, hshort, hkey, rfl⟩ := hsealed
    have hframed := @framed_enclose plaintext key iv hshort hiv
    exact ⟨_, ⟨hframed, rfl⟩, hkey, hframed.decrypt?_eq_some_iff.mpr ⟨hshort, rfl⟩⟩

/-- The nonce of a written envelope stands behind the header. -/
theorem Framed.nonce_toBytes {e : Envelope} (h : e.Framed) :
    (e.toBytes.drop headerLength).take ivLength = e.iv := by
  rw [h.drop_toBytes.1]
  exact List.take_left' h.iv

/-- **Decrypting undoes encrypting**, for every plaintext, supported key and nonce. -/
theorem decrypt_of_encrypt {plaintext key iv bs : Bytes} (hiv : iv.length = ivLength)
    (h : encrypt plaintext key iv = .ok bs) : decrypt bs key = .ok plaintext := by
  obtain ⟨hshort, hkey, hbytes⟩ := encrypt_eq_ok_iff.mp h
  exact decrypt_eq_ok_iff_enclose.mpr ⟨iv, hiv, hshort, hkey, hbytes⟩

/-- **Encrypting undoes decrypting**, byte for byte, under the nonce of the envelope. -/
theorem encrypt_of_decrypt {plaintext key bs : Bytes} (h : decrypt bs key = .ok plaintext) :
    encrypt plaintext key ((bs.drop headerLength).take ivLength) = .ok bs ∧
      bs.length = plaintext.length + 40 := by
  obtain ⟨iv, hiv, hshort, hkey, rfl⟩ := decrypt_eq_ok_iff_enclose.mp h
  have hframed := @framed_enclose plaintext key iv hshort hiv
  rw [hframed.nonce_toBytes, hframed.length_toBytes]
  refine ⟨encrypt_eq_ok_iff.mpr ⟨hshort, hkey, rfl⟩, ?_⟩
  simp [enclose, Cipher.Gcm.encrypt]

/-- A key is supported if it has one of the three sizes of AES keys. -/
theorem supported_iff {key : Bytes} :
    supported key ↔ key.length = 16 ∨ key.length = 24 ∨ key.length = 32 := by
  simp [supported, or_assoc]

/-- **The codec accepts exactly what it produces.**  Bytes decrypt to a plaintext exactly if
the key has 16, 24 or 32 bytes, the plaintext has fewer than `2 ^ 32`, the envelope has 40
bytes more, and encrypting the plaintext under bytes 12 to 24 of the envelope gives the
envelope.  Every plaintext of that length is encrypted under every such key and nonce, and is
what its envelope decrypts to. -/
theorem decrypt_eq_ok_iff_reencrypt (envelope key plaintext : Bytes) :
    (decrypt envelope key = .ok plaintext ↔
      (key.length = 16 ∨ key.length = 24 ∨ key.length = 32) ∧ plaintext.length < 2 ^ 32 ∧
        envelope.length = plaintext.length + 40 ∧
        encrypt plaintext key ((envelope.drop 12).take 12) = .ok envelope) ∧
    ((key.length = 16 ∨ key.length = 24 ∨ key.length = 32) → plaintext.length < 2 ^ 32 →
      ∀ iv : Bytes, iv.length = 12 →
        ∃ sealed, encrypt plaintext key iv = .ok sealed ∧ decrypt sealed key = .ok plaintext) := by
  constructor
  · constructor
    · intro h
      obtain ⟨hencrypt, hlength⟩ := encrypt_of_decrypt h
      obtain ⟨hshort, hkey, -⟩ := encrypt_eq_ok_iff.mp hencrypt
      exact ⟨supported_iff.mp hkey, hshort, hlength, hencrypt⟩
    · intro hsealed
      obtain ⟨-, -, hlength, hencrypt⟩ := hsealed
      have hiv : ((envelope.drop 12).take 12).length = ivLength := by
        rw [List.length_take, List.length_drop, ivLength]
        omega
      exact decrypt_of_encrypt hiv hencrypt
  · intro hkey hshort iv hiv
    have hencrypt : encrypt plaintext key iv = .ok (enclose plaintext key iv).toBytes :=
      encrypt_eq_ok_iff.mpr ⟨hshort, supported_iff.mpr hkey, rfl⟩
    exact ⟨_, hencrypt, decrypt_of_encrypt hiv hencrypt⟩

/-- A nine-byte plaintext under a key of 24 bytes comes back. -/
theorem decrypt_encrypt_nine_bytes :
    ∃ sealed, encrypt [1, 2, 3, 4, 5, 6, 7, 8, 9] (List.replicate 24 7) (List.replicate 12 5) =
        .ok sealed ∧
      decrypt sealed (List.replicate 24 7) = .ok [1, 2, 3, 4, 5, 6, 7, 8, 9] :=
  (decrypt_eq_ok_iff_reencrypt [] (List.replicate 24 7) [1, 2, 3, 4, 5, 6, 7, 8, 9]).2
    (by decide) (by decide) (List.replicate 12 5) (by decide)

end AttestedModel.Envelope
