import AttestedModel.Digest.Sha2

/-!
# Optimal asymmetric encryption padding

The padding hides a message of up to `width - 66` bytes in a string of `width`
bytes below every modulus of that width: a zero byte, a masked seed of 32
bytes, and a masked data block that holds the digest of the empty label, zeros,
a one, and the message.  The masks come from SHA-256.

`encode` writes the padded string, `decode?` reads the message back and refuses
every other string.
-/

namespace AttestedModel.Rsa.Oaep

open Digest

/-- Bytes in a digest and in a seed. -/
def digestLength : Nat := 32

/-- `length` bytes derived from a seed. -/
def mask (seed : Bytes) (length : Nat) : Bytes :=
  ((List.range ((length + digestLength - 1) / digestLength)).flatMap fun i =>
    sha256 (seed ++ Bytes.ofNat 4 i)).take length

/-- The bytes of padding besides the message. -/
def overhead : Nat := 2 * digestLength + 2

/-- The data block of a message: `width` less the zero byte and the seed. -/
def dataBlock (width : Nat) (message : Bytes) : Bytes :=
  sha256 [] ++ List.replicate (width - overhead - message.length) 0 ++ 1 :: message

/-- The padded string of a message of at most `width - overhead` bytes. -/
def encode (width : Nat) (seed message : Bytes) : Bytes :=
  let block := dataBlock width message
  let maskedBlock := block.xor (mask seed block.length)
  let maskedSeed := seed.xor (mask maskedBlock digestLength)
  0 :: maskedSeed ++ maskedBlock

/-- The message in a data block. -/
def message? (block : Bytes) : Option Bytes :=
  if block.take digestLength ≠ sha256 [] then none
  else
    match (block.drop digestLength).dropWhile (· = 0) with
    | 1 :: message => some message
    | _ => none

/-- The message of a padded string. -/
def decode? : (padded : Bytes) → Option Bytes
  | 0 :: rest =>
    let maskedBlock : Bytes := rest.drop digestLength
    let seed := Bytes.xor (rest.take digestLength) (mask maskedBlock digestLength)
    message? (maskedBlock.xor (mask seed maskedBlock.length))
  | _ => none

end AttestedModel.Rsa.Oaep
