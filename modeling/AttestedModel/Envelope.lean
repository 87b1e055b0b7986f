import AttestedModel.Cipher.Aes
import AttestedModel.Cipher.Gcm
import AttestedModel.Error

/-!
# Envelopes

An envelope is a header of three 32-bit words, least significant byte first,
then a nonce of twelve bytes, a ciphertext and a tag of sixteen bytes.  The
words are the lengths of the nonce, of the tag and of the ciphertext, so an
envelope has one written form (`Envelope.toBytes`) and one way to be read
(`Envelope.parse`).

`Envelope.encrypt` seals a plaintext under a key and a nonce;
`Envelope.decrypt` opens what was sealed and refuses all else.
-/

namespace AttestedModel

namespace Envelope

/-- Bytes in the header. -/
def headerLength : Nat := 12

/-- Bytes in the nonce. -/
def ivLength : Nat := 12

/-- Bytes in the tag. -/
def tagLength : Nat := 16

/-- The three lengths an envelope announces. -/
structure Header where
  ivLen : UInt32
  tagLen : UInt32
  dataLen : UInt32
deriving DecidableEq, Repr

/-- Why bytes are no envelope. -/
inductive Fault
  | shortHeader (length : Nat)
  | ivLen (announced : UInt32)
  | tagLen (announced : UInt32)
  | short (length : Nat)
  | dataLen (announced : UInt32) (length : Nat)
deriving DecidableEq, Repr

/-- The wording of a framing fault. -/
def Fault.detail : Fault → String
  | shortHeader length =>
    s!"ヘッダーには{headerLength}バイト必要ですが{length}バイトしかありません"
  | ivLen announced =>
    s!"IV長は{ivLength}バイトである必要があります（ヘッダー値: {announced.toNat}）"
  | tagLen announced =>
    s!"タグ長は{tagLength}バイトである必要があります（ヘッダー値: {announced.toNat}）"
  | short length =>
    s!"エンベロープ長が不足しています（{length}バイト、最低{headerLength + ivLength + tagLength}バイト）"
  | dataLen announced length =>
    s!"data_len（{announced.toNat}）が暗号文長（{length}）と一致しません"

/-- The header's twelve bytes. -/
def Header.toBytes (h : Header) : Bytes :=
  Bytes.ofWord32 h.ivLen ++ Bytes.ofWord32 h.tagLen ++ Bytes.ofWord32 h.dataLen

/-- The header at the front of `bs`, whatever follows it. -/
def Header.parse : (bs : Bytes) → Except Fault Header
  | a0 :: a1 :: a2 :: a3 :: b0 :: b1 :: b2 :: b3 :: c0 :: c1 :: c2 :: c3 :: _ =>
    .ok ⟨Bytes.word32 a0 a1 a2 a3, Bytes.word32 b0 b1 b2 b3, Bytes.word32 c0 c1 c2 c3⟩
  | bs => .error (.shortHeader bs.length)

end Envelope

/-- The four parts of an envelope. -/
structure Envelope where
  header : Envelope.Header
  iv : Bytes
  ciphertext : Bytes
  tag : Bytes
deriving DecidableEq, Repr

namespace Envelope

/-- The written form. -/
def toBytes (e : Envelope) : Bytes :=
  e.header.toBytes ++ e.iv ++ e.ciphertext ++ e.tag

/-- The envelope that `bs` writes.  The ciphertext is what lies between the nonce and the
last sixteen bytes, and must be as long as the header says. -/
def parse (bs : Bytes) : Except Fault Envelope := do
  let header ← Header.parse bs
  if header.ivLen.toNat ≠ ivLength then throw (.ivLen header.ivLen)
  if header.tagLen.toNat ≠ tagLength then throw (.tagLen header.tagLen)
  if bs.length < headerLength + ivLength + tagLength then throw (.short bs.length)
  let body := bs.drop (headerLength + ivLength)
  let dataLength := body.length - tagLength
  if header.dataLen.toNat ≠ dataLength then throw (.dataLen header.dataLen dataLength)
  return {
    header
    iv := (bs.drop headerLength).take ivLength
    ciphertext := body.take dataLength
    tag := body.drop dataLength }

/-- The block cipher of a key. -/
def cipher (key : Bytes) : Cipher.Block → Cipher.Block :=
  let schedule := Cipher.Aes.Schedule.ofKey key
  fun block => Cipher.Block.ofBytes
    (Cipher.Aes.encrypt schedule (Cipher.Aes.Square.ofBytes block.toBytes)).toBytes

/-- A key has 16, 24 or 32 bytes. -/
def supported (key : Bytes) : Bool :=
  key.length = 16 || key.length = 24 || key.length = 32

/-- The failure for a key of another length. -/
def unsupportedKey (key : Bytes) : CryptoError :=
  .invalidArgument s!"AES-GCMの鍵長は16/24/32バイトのいずれかです（{key.length}バイト）"

/-- The plaintext of an envelope.  The framing is checked before the key's length, and the
tag last. -/
def decrypt (envelope key : Bytes) : Except CryptoError Bytes := do
  if envelope.isEmpty then throw (.invalidArgument "暗号化データが空です")
  if key.isEmpty then throw (.invalidArgument "復号鍵が空です")
  let e ← (parse envelope).mapError fun fault => .envelopeDecode fault.detail
  if !supported key then throw (unsupportedKey key)
  match Cipher.Gcm.decrypt? (cipher key) e.iv e.ciphertext e.tag with
  | some plaintext => return plaintext
  | none => throw .authenticationFailure

/-- The envelope of a plaintext under a key and a nonce of twelve bytes. -/
def encrypt (plaintext key iv : Bytes) : Except CryptoError Bytes := do
  if plaintext.length ≥ Nat.pow 2 32 then throw (.invalidArgument "平文が4GiBを超えています")
  if !supported key then throw (unsupportedKey key)
  let (ciphertext, tag) := Cipher.Gcm.encrypt (cipher key) iv plaintext
  let header : Header :=
    ⟨ivLength.toUInt32, tagLength.toUInt32, plaintext.length.toUInt32⟩
  return toBytes { header, iv, ciphertext, tag }

end Envelope

end AttestedModel
