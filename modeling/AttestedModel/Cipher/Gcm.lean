import AttestedModel.Bytes

/-!
# Counter mode with a polynomial tag

Galois/counter mode over any block cipher of 128 bits: the data is added to the
encrypted successors of a counter block, and the tag is a polynomial hash of the
ciphertext under the encryption of zero, added to the encrypted counter block.
Polynomials have their constant term in the first, most significant, bit.

Streaming twice gives the data back, whatever the cipher is.
-/

namespace AttestedModel.Cipher

/-- A block of 128 bits. -/
abbrev Block := BitVec 128

namespace Block

/-- The block of up to sixteen bytes, filled up with zeros. -/
def ofBytes (bs : Bytes) : Block :=
  BitVec.ofNat 128 (bs.toNat * Nat.pow 256 (16 - bs.length))

/-- The sixteen bytes of a block. -/
def toBytes (b : Block) : Bytes :=
  Bytes.ofNat 16 b.toNat

/-- A block has sixteen bytes. -/
@[simp] theorem length_toBytes (b : Block) : b.toBytes.length = 16 :=
  Bytes.length_ofNat 16 b.toNat

/-- The next counter block: the last 32 bits count, the rest stays. -/
def next (b : Block) : Block :=
  b.extractLsb' 32 96 ++ (b.extractLsb' 0 32 + 1#32)

end Block

namespace Ghash

/-- The polynomial that the field is taken modulo, less its leading term. -/
def modulus : Block :=
  0xe1000000000000000000000000000000#128

/-- The product with the polynomial `x`. -/
def timesX (v : Block) : Block :=
  if v.getLsbD 0 then (v >>> 1) ^^^ modulus else v >>> 1

/-- The products of `v` with the first `count` powers of `x`. -/
def multiples : (count : Nat) → (v : Block) → List Block
  | 0, _ => []
  | count + 1, v => v :: multiples count (timesX v)

/-- The sum of those multiples that the bits of `x` pick, first bit first. -/
def combine : (table : List Block) → (x : Block) → Block
  | [], _ => 0
  | v :: table, x => (if x.msb then v else 0) ^^^ combine table (x <<< 1)

/-- The product in the field of 128 bits. -/
def mul (x y : Block) : Block :=
  combine (multiples 128 y) x

/-- The hash of a list of blocks under the key `h`: each step adds a block and multiplies
by `h`. -/
def hash (h : Block) (blocks : List Block) : Block :=
  let table := multiples 128 h
  blocks.foldl (fun y x => combine table (y ^^^ x)) 0

end Ghash

namespace Gcm

/-- The counter block of a nonce of twelve bytes. -/
def start (nonce : Bytes) : Block :=
  Block.ofBytes (nonce ++ [0, 0, 0, 1])

/-- Pieces of at most sixteen bytes added to the encryptions of a counter block and its
successors. -/
def streamPieces (cipher : Block → Block) : (counter : Block) → List Bytes → Bytes
  | _, [] => []
  | counter, piece :: pieces =>
    piece.xor (cipher counter).toBytes ++ streamPieces cipher counter.next pieces

/-- The data added to the key stream that follows the counter block. -/
def stream (cipher : Block → Block) (counter : Block) (data : Bytes) : Bytes :=
  streamPieces cipher counter.next (data.chunks 16)

/-- The tag of a ciphertext without associated data. -/
def tag (cipher : Block → Block) (nonce ciphertext : Bytes) : Bytes :=
  let lengths := BitVec.ofNat 128 (8 * ciphertext.length)
  let hash := Ghash.hash (cipher 0) ((ciphertext.chunks 16).map Block.ofBytes ++ [lengths])
  Block.toBytes (hash ^^^ cipher (start nonce))

/-- The ciphertext and the tag of a plaintext. -/
def encrypt (cipher : Block → Block) (nonce plaintext : Bytes) : Bytes × Bytes :=
  let ciphertext := stream cipher (start nonce) plaintext
  (ciphertext, tag cipher nonce ciphertext)

/-- The plaintext, if the tag is that of the ciphertext. -/
def decrypt? (cipher : Block → Block) (nonce ciphertext tag : Bytes) : Option Bytes :=
  if tag = Gcm.tag cipher nonce ciphertext then
    some (stream cipher (start nonce) ciphertext)
  else none

end Gcm

end AttestedModel.Cipher
