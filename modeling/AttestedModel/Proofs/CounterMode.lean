import AttestedModel.Cipher.Gcm
import AttestedModel.Proofs.ByteStrings

/-!
# Counter mode is an involution

The key stream depends on the counter block alone and not on the data that it is
added to, so streaming keeps the length of the data (`length_stream`) and
streaming twice gives the data back (`stream_stream`).  Both hold for every map
of blocks in the place of the cipher, and for data of any length: the last piece
may be shorter than a block.

Hence a ciphertext and a tag decrypt to a plaintext exactly if the plaintext
encrypts to them (`decrypt?_eq_some_iff`).
-/

namespace AttestedModel.Cipher.Gcm

variable (cipher : Block → Block)

/-- The first piece of data meets the counter block, the rest its successors. -/
theorem streamPieces_of_ne_nil {data : Bytes} (counter : Block) (h : data ≠ []) :
    streamPieces cipher counter (data.chunks 16) =
      Bytes.xor (data.take 16) (cipher counter).toBytes ++
        streamPieces cipher counter.next (Bytes.chunks 16 (data.drop 16)) := by
  rw [Bytes.chunks_of_ne_nil (by decide) h, streamPieces]

/-- Each piece is as long as what it is laid over. -/
theorem length_streamPieces (counter : Block) (data : Bytes) :
    (streamPieces cipher counter (data.chunks 16)).length = data.length := by
  induction hn : data.length using Nat.strongRecOn generalizing data counter with
  | ind n ih =>
      by_cases h : data = []
      · subst h
        simpa [streamPieces] using hn
      · have hpos := List.length_pos_iff.mpr h
        have hrest := ih (data.drop 16).length (by simp; omega) counter.next (data.drop 16) rfl
        rw [streamPieces_of_ne_nil cipher counter h, List.length_append, hrest]
        simp
        omega

/-- What was streamed splits after a block where the data does. -/
theorem streamPieces_split {data : Bytes} (counter : Block) (h : data ≠ []) :
    (streamPieces cipher counter (data.chunks 16)).take 16 =
        Bytes.xor (data.take 16) (cipher counter).toBytes ∧
      (streamPieces cipher counter (data.chunks 16)).drop 16 =
        streamPieces cipher counter.next (Bytes.chunks 16 (data.drop 16)) := by
  rw [streamPieces_of_ne_nil cipher counter h]
  by_cases hlong : 16 ≤ data.length
  · have hfirst : (Bytes.xor (data.take 16) (cipher counter).toBytes).length = 16 := by
      simp [hlong]
    exact ⟨List.take_left' hfirst, List.drop_left' hfirst⟩
  · -- the only piece: nothing is streamed behind it
    have hshort : data.length ≤ 16 := by omega
    rw [List.drop_eq_nil_of_le hshort]
    simp [streamPieces, hshort]

/-- Each piece of what was streamed meets the same key block again. -/
theorem streamPieces_streamPieces (counter : Block) (data : Bytes) :
    streamPieces cipher counter
      (Bytes.chunks 16 (streamPieces cipher counter (data.chunks 16))) = data := by
  induction hn : data.length using Nat.strongRecOn generalizing data counter with
  | ind n ih =>
      by_cases h : data = []
      · simp [h, streamPieces]
      · have hpos := List.length_pos_iff.mpr h
        have hne : streamPieces cipher counter (data.chunks 16) ≠ [] := by
          rw [← List.length_pos_iff, length_streamPieces]
          exact hpos
        obtain ⟨htake, hdrop⟩ := streamPieces_split cipher counter h
        rw [streamPieces_of_ne_nil cipher counter hne, htake, hdrop,
          ih (data.drop 16).length (by simp; omega) counter.next (data.drop 16) rfl,
          Bytes.xor_xor (by simp), List.take_append_drop]

/-- Streaming keeps the length. -/
@[simp] theorem length_stream (counter : Block) (data : Bytes) :
    (stream cipher counter data).length = data.length :=
  length_streamPieces cipher counter.next data

/-- **Involution.**  Streaming twice gives the data back. -/
@[simp] theorem stream_stream (counter : Block) (data : Bytes) :
    stream cipher counter (stream cipher counter data) = data :=
  streamPieces_streamPieces cipher counter.next data

@[simp] theorem length_tag (nonce ciphertext : Bytes) :
    (tag cipher nonce ciphertext).length = 16 :=
  Block.length_toBytes _

/-- **The mode accepts what it produces.**  A ciphertext with a tag decrypts to a plaintext
exactly if the plaintext encrypts to that ciphertext and that tag. -/
theorem decrypt?_eq_some_iff {nonce ciphertext tag plaintext : Bytes} :
    decrypt? cipher nonce ciphertext tag = some plaintext ↔
      encrypt cipher nonce plaintext = (ciphertext, tag) := by
  simp only [decrypt?, encrypt, Prod.mk.injEq, Option.ite_none_right_eq_some, Option.some.injEq]
  constructor
  · intro hopen
    obtain ⟨htag, rfl⟩ := hopen
    rw [stream_stream]
    exact ⟨rfl, htag.symm⟩
  · intro hseal
    obtain ⟨rfl, htag⟩ := hseal
    rw [stream_stream]
    exact ⟨htag.symm, rfl⟩

end AttestedModel.Cipher.Gcm
