import AttestedModel.Rsa.PublicKey
import AttestedModel.Text.Hex

/-!
# Key pairs

A key pair is two primes; its modulus is their product and its public exponent
65537.  `unwrap` undoes what `wrap` does under the pair's own document, and
refuses every other byte string of the modulus's length.
-/

namespace AttestedModel.Rsa

/-- The public exponent of every pair. -/
def publicExponent : Nat := 65537

/-- The least length of a modulus in bits. -/
def minimumBits : Nat := 3072

/-- The two primes of a pair. -/
structure KeyPair where
  p : Nat
  q : Nat
deriving DecidableEq, Repr

namespace KeyPair

/-- The pair of two drawn primes, where a modulus of `bits` bits was asked for. -/
def generate (bits : Nat) (primes : Nat × Nat) : Except CryptoError KeyPair :=
  if bits < minimumBits then
    .error (.invalidArgument s!"RSA鍵長は{minimumBits}bit以上が必要です（{bits}bit）")
  else .ok ⟨primes.1, primes.2⟩

/-- The public half. -/
def publicKey (pair : KeyPair) : PublicKey :=
  { modulus := pair.p * pair.q, exponent := publicExponent }

/-- The document of the public half. -/
def publicKeyDer (pair : KeyPair) : Bytes :=
  pair.publicKey.toDer

/-- The inverse of the public exponent modulo `(p - 1) * (q - 1)`: the quotient of the first
multiple of that number, plus one, that the public exponent divides. -/
def privateExponent (pair : KeyPair) : Nat :=
  let totient := (pair.p - 1) * (pair.q - 1)
  let residue := totient % publicExponent
  let multiple := (List.range publicExponent).find? fun k =>
    (k * residue + 1) % publicExponent = 0
  (multiple.getD 0 * totient + 1) / publicExponent

/-- OAEP decryption under the private half, as the RSA implementation below the pairs carries it
out.  The tests of the length and of the number are steps of that implementation: nothing else
looks at the length of a wrapped key. -/
def decrypt? (pair : KeyPair) (wrapped : Bytes) : Option Bytes :=
  let key := pair.publicKey
  if wrapped.length ≠ key.size ∨ wrapped.toNat ≥ key.modulus then none
  else
    Oaep.decode? (Bytes.ofNat key.size (powMod wrapped.toNat pair.privateExponent key.modulus))

/-- The message of a wrapped key.  The bytes are decrypted as they are, and whatever is wrong with
them, the failure is the same. -/
def unwrap (pair : KeyPair) (wrapped : Bytes) : Except CryptoError Bytes :=
  match pair.decrypt? wrapped with
  | some message => .ok message
  | none => .error .unwrapError

/-- The digest of the public document, in hexadecimal. -/
def fingerprint (pair : KeyPair) : String :=
  Text.Hex.encode (Digest.sha256 pair.publicKeyDer)

/-- What a log may show of a pair: its fingerprint alone. -/
def summary (pair : KeyPair) : String :=
  "EphemeralKeyPair \x7b fingerprint: \"" ++ pair.fingerprint ++ "\", .. \x7d"

end KeyPair

end AttestedModel.Rsa
