import AttestedModel.Proofs.ForeignParts

/-!
# How any bytes are framed

Bytes that are no envelope have a first thing wrong with them: they are too short for a
header, the header announces another nonce or another tag, there is no room for these
two, or the ciphertext has not the length that the header announces.  `Unframed` lists
these faults by what the bytes are made of, and parsing fails exactly with the one that
there is (`parse_eq_error_iff`).

Parsing takes the bytes apart at places that are told by their number and by words that
anybody may have chosen.  `parseChecked` takes the same parts, but crashes where a part
reaches beyond the bytes or a place would lie before them.  The two are compared step by
step (`RunsLike`): what has passed the checks so far keeps the next part within the bytes,
so that nothing crashes and both end alike (`runsLike_parseChecked`).
-/

namespace AttestedModel

namespace Bytes

variable {bs : Bytes} {start stop : Nat}

/-- The bytes from one place to another, if the places are in order and the bytes reach that
far. -/
def slice? (bs : Bytes) (start stop : Nat) : Option Bytes :=
  if start ≤ stop ∧ stop ≤ bs.length then some ((bs.drop start).take (stop - start)) else none

/-- A slice that is in order and in reach is there. -/
theorem slice?_of_le (horder : start ≤ stop) (hreach : stop ≤ bs.length) :
    bs.slice? start stop = some ((bs.drop start).take (stop - start)) :=
  if_pos ⟨horder, hreach⟩

/-- A part of a string is the slice that begins behind what stands before it. -/
theorem slice?_append (front part rest : Bytes) :
    slice? (front ++ part ++ rest) front.length (front.length + part.length) = some part := by
  rw [slice?_of_le (Nat.le_add_right ..) (by simp), Nat.add_sub_cancel_left, List.append_assoc,
    List.drop_left, List.take_left]

/-- The word of four bytes, and of no other number of them. -/
def word32? : Bytes → Option UInt32
  | [b0, b1, b2, b3] => some (word32 b0 b1 b2 b3)
  | _ => none

/-- The bytes of a word are read as the word. -/
theorem word32?_ofWord32 (w : UInt32) : word32? (ofWord32 w) = some w :=
  congrArg some (word32_ofWord32 w)

/-- Four bytes or more begin with a word. -/
theorem exists_ofWord32_append (h : 4 ≤ bs.length) : ∃ w rest, bs = ofWord32 w ++ rest := by
  match bs, h with
  | b0 :: b1 :: b2 :: b3 :: rest, _ =>
      exact ⟨word32 b0 b1 b2 b3, rest, by rw [ofWord32_word32]; rfl⟩

end Bytes

namespace Envelope

/-- Twelve bytes or more begin with a header. -/
theorem Header.exists_toBytes_append {bs : Bytes} (h : headerLength ≤ bs.length) :
    ∃ (header : Header) (rest : Bytes), bs = header.toBytes ++ rest := by
  obtain ⟨ivLen, bs, rfl⟩ := Bytes.exists_ofWord32_append (Nat.le_trans (by decide) h)
  simp only [headerLength, List.length_append, Bytes.ofWord32, List.length_cons,
    List.length_nil] at h
  obtain ⟨tagLen, bs, rfl⟩ := @Bytes.exists_ofWord32_append bs (by omega)
  simp only [List.length_append, Bytes.ofWord32, List.length_cons, List.length_nil] at h
  obtain ⟨dataLen, rest, rfl⟩ := @Bytes.exists_ofWord32_append bs (by omega)
  exact ⟨⟨ivLen, tagLen, dataLen⟩, rest, by simp only [Header.toBytes, List.append_assoc]⟩

/-- Bytes fail to read as a header exactly if there are not enough of them. -/
theorem Header.parse_eq_error_iff {bs : Bytes} {fault : Fault} :
    Header.parse bs = .error fault ↔ bs.length < headerLength ∧ .shortHeader bs.length = fault := by
  by_cases hlong : headerLength ≤ bs.length
  · obtain ⟨h, rest, rfl⟩ := exists_toBytes_append hlong
    simp [h.parse_toBytes, headerLength]
  · unfold Header.parse
    split
    · simp [headerLength] at hlong
    · simp [Nat.lt_of_not_le hlong]

/-- What is wrong with bytes that are no envelope, by the first thing that is. -/
inductive Unframed : Bytes → Fault → Prop
  | shortHeader {bs : Bytes} (length : bs.length < headerLength) :
      Unframed bs (.shortHeader bs.length)
  | ivLen {h : Header} {rest : Bytes} (iv : h.ivLen.toNat ≠ ivLength) :
      Unframed (h.toBytes ++ rest) (.ivLen h.ivLen)
  | tagLen {h : Header} {rest : Bytes} (iv : h.ivLen.toNat = ivLength)
      (tag : h.tagLen.toNat ≠ tagLength) : Unframed (h.toBytes ++ rest) (.tagLen h.tagLen)
  | short {h : Header} {rest : Bytes} (iv : h.ivLen.toNat = ivLength)
      (tag : h.tagLen.toNat = tagLength) (room : rest.length < ivLength + tagLength) :
      Unframed (h.toBytes ++ rest) (.short (headerLength + rest.length))
  | dataLen {h : Header} {rest : Bytes} {n : Nat} (iv : h.ivLen.toNat = ivLength)
      (tag : h.tagLen.toNat = tagLength) (room : rest.length = ivLength + n + tagLength)
      (data : h.dataLen.toNat ≠ n) : Unframed (h.toBytes ++ rest) (.dataLen h.dataLen n)

/-- A header makes what stands behind it longer by its own length. -/
theorem Header.length_append (h : Header) (rest : Bytes) :
    (h.toBytes ++ rest).length = headerLength + rest.length :=
  List.length_append

/-- What stands behind the nonce has the length of what stands behind the header, less that of the
nonce. -/
theorem Header.length_body (h : Header) (rest : Bytes) :
    ((h.toBytes ++ rest).drop (headerLength + ivLength)).length = rest.length - ivLength := by
  rw [List.length_drop, h.length_append, Nat.add_sub_add_left]

/-- **Bytes fail to parse exactly if they are no envelope**, and with the first thing that is
wrong with them. -/
theorem parse_eq_error_iff {bs : Bytes} {fault : Fault} :
    parse bs = .error fault ↔ Unframed bs fault := by
  simp only [parse, bind_eq_error_iff, Header.parse_eq_error_iff, Header.parse_eq_ok_iff,
    throw_bind, guard_eq_error_iff, pure_ne_error, and_false, or_false, not_not]
  constructor
  · rintro (⟨hshort, rfl⟩ | ⟨h, ⟨rest, rfl⟩, ⟨hiv, rfl⟩ | ⟨hiv, ⟨htag, rfl⟩ | ⟨htag, hbody⟩⟩⟩)
    · exact .shortHeader hshort
    · exact .ivLen hiv
    · exact .tagLen hiv htag
    -- the two that are left are about what stands behind the header
    rw [h.length_append, h.length_body] at hbody
    obtain ⟨hroom, rfl⟩ | ⟨hroom, hdata, rfl⟩ := hbody
    · exact .short hiv htag (by omega)
    · exact .dataLen hiv htag (by omega) hdata
  · intro h
    cases h with
    | shortHeader length => exact .inl ⟨length, rfl⟩
    | ivLen iv => exact .inr ⟨_, ⟨_, rfl⟩, .inl ⟨iv, rfl⟩⟩
    | tagLen iv tag => exact .inr ⟨_, ⟨_, rfl⟩, .inr ⟨iv, .inl ⟨tag, rfl⟩⟩⟩
    | @short h rest iv tag room =>
        refine .inr ⟨h, ⟨rest, rfl⟩, .inr ⟨iv, .inr ⟨tag, ?_⟩⟩⟩
        rw [h.length_append]
        exact .inl ⟨by omega, rfl⟩
    | @dataLen h rest n iv tag room data =>
        refine .inr ⟨h, ⟨rest, rfl⟩, .inr ⟨iv, .inr ⟨tag, ?_⟩⟩⟩
        have hdata : rest.length - ivLength - tagLength = n := by omega
        rw [h.length_append, h.length_body, hdata]
        exact .inr ⟨by omega, data, rfl⟩

/-- A computation that ends with a result or a failure, or else crashes. -/
abbrev Checked (α : Type) := ExceptT CryptoError Option α

/-- The failure for bytes that are no envelope. -/
def refuse (fault : Fault) : Checked α :=
  throw (.envelopeDecode fault.detail)

/-- The word that comes after `i` other ones at the front of `bs`. -/
def Header.word? (bs : Bytes) (i : Nat) : Option UInt32 := do
  Bytes.word32? (← bs.slice? (i * 4) (i * 4 + 4))

/-- The header at the front of `bs`, each of whose words has to be there. -/
def Header.parseChecked (bs : Bytes) : Checked Header := do
  if bs.length < headerLength then refuse (.shortHeader bs.length)
  return { ivLen := ← word? bs 0, tagLen := ← word? bs 1, dataLen := ← word? bs 2 }

/-- The envelope that `bs` writes, each of whose parts has to be there.  The nonce begins behind
the header, and the tag as far before the end as the header says. -/
def parseChecked (bs : Bytes) : Checked Envelope := do
  let header ← Header.parseChecked bs
  if header.ivLen.toNat ≠ ivLength then refuse (.ivLen header.ivLen)
  if header.tagLen.toNat ≠ tagLength then refuse (.tagLen header.tagLen)
  let ivEnd := headerLength + header.ivLen.toNat
  if bs.length < ivEnd + header.tagLen.toNat then refuse (.short bs.length)
  let tagStart ← bs.length.psub header.tagLen.toNat
  let iv ← bs.slice? headerLength ivEnd
  let ciphertext ← bs.slice? ivEnd tagStart
  let tag ← bs.slice? tagStart bs.length
  if header.dataLen.toNat ≠ ciphertext.length then
    refuse (.dataLen header.dataLen ciphertext.length)
  return { header, iv, ciphertext, tag }

/-- A checked computation ends as one does that checks nothing, and so it does not crash. -/
def RunsLike {α : Type} (checked : Checked α) (plain : Except Fault α) : Prop :=
  checked.run = some (plain.mapError fun fault => .envelopeDecode fault.detail)

section RunsLike

variable {α β : Type} {checked : Checked β} {plain : Except Fault β}

theorem runsLike_pure (a : α) : RunsLike (pure a) (pure a) :=
  rfl

/-- A chain runs like a chain, step by step. -/
theorem RunsLike.bind {first : Checked α} {first' : Except Fault α} {next : α → Checked β}
    {next' : α → Except Fault β} (h : RunsLike first first')
    (hnext : ∀ a, RunsLike (next a) (next' a)) : RunsLike (first >>= next) (first' >>= next') := by
  rw [RunsLike, ExceptT.run_bind, h]
  cases first' with
  | error fault => rfl
  | ok a => exact hnext a

/-- A checked guard runs like the guard, if what follows it does. -/
theorem RunsLike.guard {c : Prop} [Decidable c] {fault : Fault}
    (h : ¬ c → RunsLike checked plain) :
    RunsLike (if c then do refuse fault; checked else checked)
      (if c then do throw fault; plain else plain) := by
  by_cases hc : c
  · rw [if_pos hc, if_pos hc]
    rfl
  · rw [if_neg hc, if_neg hc]
    exact h hc

/-- A part that is there is taken, and the rest goes on with it. -/
theorem RunsLike.access {part : Option α} {a : α} {next : α → Checked β} (hpart : part = some a)
    (h : RunsLike (next a) plain) : RunsLike (do next (← part)) plain := by
  rw [hpart]
  exact h

end RunsLike

/-- The words of a written header are where they are looked for. -/
theorem Header.word?_toBytes (h : Header) (rest : Bytes) :
    word? (h.toBytes ++ rest) 0 = some h.ivLen ∧ word? (h.toBytes ++ rest) 1 = some h.tagLen ∧
      word? (h.toBytes ++ rest) 2 = some h.dataLen := by
  have hword : ∀ {i : Nat} (front : Bytes) (w : UInt32) (back : Bytes), front.length = i * 4 →
      word? (front ++ Bytes.ofWord32 w ++ back) i = some w := by
    intro i front w back hfront
    rw [word?, ← hfront]
    exact (congrArg (· >>= Bytes.word32?) (Bytes.slice?_append front _ back)).trans
      (Bytes.word32?_ofWord32 w)
  exact ⟨hword [] h.ivLen (Bytes.ofWord32 h.tagLen ++ Bytes.ofWord32 h.dataLen ++ rest) rfl,
    hword (Bytes.ofWord32 h.ivLen) h.tagLen (Bytes.ofWord32 h.dataLen ++ rest) rfl,
    hword (Bytes.ofWord32 h.ivLen ++ Bytes.ofWord32 h.tagLen) h.dataLen rest rfl⟩

/-- No access to a header leaves its bytes, and the rest is the same. -/
theorem Header.runsLike_parseChecked (bs : Bytes) :
    RunsLike (Header.parseChecked bs) (Header.parse bs) := by
  by_cases hshort : bs.length < headerLength
  · rw [Header.parse_eq_error_iff.mpr ⟨hshort, rfl⟩, parseChecked, if_pos hshort]
    rfl
  · obtain ⟨h, rest, rfl⟩ := Header.exists_toBytes_append (Nat.le_of_not_lt hshort)
    obtain ⟨hiv, htag, hdata⟩ := h.word?_toBytes rest
    rw [h.parse_toBytes, parseChecked, if_neg hshort]
    exact .access hiv (.access htag (.access hdata (runsLike_pure h)))

/-- **Parsing stays within the bytes.**  It crashes for none of them, though each part is taken
from where the header and the number of the bytes say that it is. -/
theorem runsLike_parseChecked (bs : Bytes) : RunsLike (parseChecked bs) (parse bs) := by
  refine .bind (Header.runsLike_parseChecked bs) fun header => ?_
  refine .guard fun hiv => .guard fun htag => ?_
  rw [not_not.mp hiv, not_not.mp htag]
  refine .guard fun hroom => ?_
  -- behind the nonce there are `n` bytes and a tag
  obtain ⟨n, hlength⟩ : ∃ n, bs.length = headerLength + ivLength + (n + tagLength) :=
    ⟨bs.length - (headerLength + ivLength + tagLength), by omega⟩
  have hbody : (bs.drop (headerLength + ivLength)).length = n + tagLength := by
    rw [List.length_drop, hlength, Nat.add_sub_cancel_left]
  have hdata : ((bs.drop (headerLength + ivLength)).take n).length = n :=
    List.length_take_of_le (by omega)
  have hstart : bs.length.psub tagLength = some (headerLength + ivLength + n) :=
    Nat.psub_eq_some.mpr (by omega)
  have hnonce : bs.slice? headerLength (headerLength + ivLength) =
      some ((bs.drop headerLength).take ivLength) :=
    Bytes.slice?_of_le (by omega) (by omega)
  have hciphertext : bs.slice? (headerLength + ivLength) (headerLength + ivLength + n) =
      some ((bs.drop (headerLength + ivLength)).take n) := by
    rw [Bytes.slice?_of_le (by omega) (by omega), Nat.add_sub_cancel_left]
  have hend : bs.slice? (headerLength + ivLength + n) bs.length =
      some ((bs.drop (headerLength + ivLength)).drop n) := by
    rw [Bytes.slice?_of_le (by omega) (Nat.le_refl _), List.drop_drop, List.take_of_length_le]
    exact Nat.le_of_eq List.length_drop
  refine .access hstart (.access hnonce (.access hciphertext (.access hend ?_)))
  simp only [hdata, hbody, Nat.add_sub_cancel]
  exact .guard fun _ => runsLike_pure _

/-- An envelope is framed exactly if its header is the one that its parts ask for. -/
theorem framed_iff {e : Envelope} :
    e.Framed ↔ e.iv.length = 12 ∧ e.tag.length = 16 ∧ e.ciphertext.length < 2 ^ 32 ∧
      e.header = ⟨12, 16, e.ciphertext.length.toUInt32⟩ := by
  constructor
  · intro h
    have hshort : e.ciphertext.length < 2 ^ 32 := h.dataLen ▸ e.header.dataLen.toNat_lt
    have hframed : ({ e with header := ⟨12, 16, e.ciphertext.length.toUInt32⟩ } : Envelope).Framed :=
      { ivLen := rfl, tagLen := rfl, dataLen := Nat.mod_eq_of_lt hshort, iv := h.iv, tag := h.tag }
    exact ⟨h.iv, h.tag, hshort, h.header_eq hframed rfl⟩
  · intro h
    obtain ⟨hiv, htag, hshort, hheader⟩ := h
    exact
      { ivLen := hheader ▸ rfl
        tagLen := hheader ▸ rfl
        dataLen := hheader ▸ Nat.mod_eq_of_lt hshort
        iv := hiv
        tag := htag }

/-- **Framing is exact and lossless.**  Bytes parse exactly if they are a nonce of 12 bytes, a
ciphertext of fewer than `2 ^ 32` and a tag of 16 behind the header with these lengths, and they
parse as that header and these parts.  All other bytes have a first thing wrong with them and are
refused for it, and neither the ones nor the others make parsing crash.  Bytes that parse do so no
longer with anything behind them.  Every header is read back from its bytes, whatever follows
them, and any twelve bytes are those of the header that they are read as. -/
theorem framing_lossless :
    (∀ (bs : Bytes) (e : Envelope), parse bs = .ok e ↔
      ∃ iv ciphertext tag : Bytes, iv.length = 12 ∧ tag.length = 16 ∧ ciphertext.length < 2 ^ 32 ∧
        e = ⟨⟨12, 16, ciphertext.length.toUInt32⟩, iv, ciphertext, tag⟩ ∧
        bs = (⟨12, 16, ciphertext.length.toUInt32⟩ : Header).toBytes ++ iv ++ ciphertext ++ tag) ∧
    (∀ bs : Bytes,
      (∃ e, parse bs = .ok e ∧ (parseChecked bs).run = some (.ok e)) ∨
      ∃ fault, Unframed bs fault ∧ parse bs = .error fault ∧
        (parseChecked bs).run = some (.error (.envelopeDecode fault.detail))) ∧
    (∀ (bs more : Bytes) (e : Envelope), parse bs = .ok e → more ≠ [] →
      ∀ d, parse (bs ++ more) ≠ .ok d) ∧
    (∀ (h : Header) (rest : Bytes), Header.parse (h.toBytes ++ rest) = .ok h) ∧
    ∀ bs : Bytes, 12 ≤ bs.length → (Header.parse bs).map Header.toBytes = .ok (bs.take 12) := by
  refine ⟨fun bs e => ?_, fun bs => ?_, fun bs more e hparse hmore => ?_, Header.parse_toBytes,
    fun bs hlength => ?_⟩
  · rw [parse_eq_ok_iff, framed_iff]
    constructor
    · rintro ⟨⟨hiv, htag, hshort, hheader⟩, rfl⟩
      refine ⟨e.iv, e.ciphertext, e.tag, hiv, htag, hshort, ?_, ?_⟩
      · rw [← hheader]
      · rw [← hheader, toBytes]
    · rintro ⟨iv, ciphertext, tag, hiv, htag, hshort, rfl, rfl⟩
      exact ⟨⟨hiv, htag, hshort, rfl⟩, rfl⟩
  · have hchecked := runsLike_parseChecked bs
    cases hparse : parse bs with
    | ok e =>
        rw [hparse] at hchecked
        exact .inl ⟨e, rfl, hchecked⟩
    | error fault =>
        rw [hparse] at hchecked
        exact .inr ⟨fault, parse_eq_error_iff.mp hparse, rfl, hchecked⟩
  · obtain ⟨hframed, rfl⟩ := parse_eq_ok_iff.mp hparse
    exact hframed.parse_ne_of_extended hmore
  · obtain ⟨h, rest, rfl⟩ := Header.exists_toBytes_append hlength
    rw [h.parse_toBytes]
    rfl

/-- Two bytes between a nonce and a tag are framed, but not with one more byte at the end. -/
theorem framing_of_two_bytes :
    parse ([12, 0, 0, 0, 16, 0, 0, 0, 2, 0, 0, 0] ++ List.replicate 12 5 ++ [1, 2] ++
        List.replicate 16 9) =
      .ok ⟨⟨12, 16, 2⟩, List.replicate 12 5, [1, 2], List.replicate 16 9⟩ ∧
    (∀ d, parse ([12, 0, 0, 0, 16, 0, 0, 0, 2, 0, 0, 0] ++ List.replicate 12 5 ++ [1, 2] ++
        List.replicate 16 9 ++ [0]) ≠ .ok d) ∧
    (Header.parse [12, 0, 0, 0, 16, 0, 0, 0, 2, 0, 0, 0, 5]).map Header.toBytes =
      .ok [12, 0, 0, 0, 16, 0, 0, 0, 2, 0, 0, 0] := by
  obtain ⟨haccepted, -, hextended, -, hheader⟩ := framing_lossless
  have hparse := (haccepted _ _).mpr ⟨List.replicate 12 5, [1, 2], List.replicate 16 9, by decide,
    by decide, by decide, rfl, rfl⟩
  exact ⟨hparse, hextended _ [0] _ hparse (by decide), hheader _ (by decide)⟩

end Envelope

end AttestedModel
