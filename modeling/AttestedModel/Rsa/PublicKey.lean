import AttestedModel.Error
import AttestedModel.Rsa.Der
import AttestedModel.Rsa.Oaep

/-!
# RSA public keys

A public key is a modulus and an exponent.  Its document is a
SubjectPublicKeyInfo: the algorithm identifier of RSA with null parameters, and
the two numbers.  A key has one document, and only that document reads as the
key (`PublicKey.toDer`, `PublicKey.ofDer?`).

`wrap` encrypts a short message under the key of a document.
-/

namespace AttestedModel.Rsa

/-- `base ^ exponent` modulo `modulus`, by repeated squaring. -/
def powMod (base exponent modulus : Nat) : Nat :=
  if exponent = 0 then 1 % modulus
  else
    let half := powMod (base * base % modulus) (exponent / 2) modulus
    if exponent % 2 = 1 then base * half % modulus else half
termination_by exponent
decreasing_by omega

/-- A modulus and an exponent. -/
structure PublicKey where
  modulus : Nat
  exponent : Nat
deriving DecidableEq, Repr

namespace PublicKey

/-- The algorithm identifier: the object identifier 1.2.840.113549.1.1.1 and a null. -/
def algorithm : Bytes :=
  [0x06, 0x09, 0x2a, 0x86, 0x48, 0x86, 0xf7, 0x0d, 0x01, 0x01, 0x01, 0x05, 0x00]

/-- The document of a key. -/
def toDer (key : PublicKey) : Bytes :=
  let numbers := Der.element Der.sequenceTag (Der.integer key.modulus ++ Der.integer key.exponent)
  Der.element Der.sequenceTag
    (Der.element Der.sequenceTag algorithm ++ Der.element Der.bitStringTag (0 :: numbers))

/-- A key is usable if its modulus is odd and has at most 4096 bits, and its exponent is odd,
at least 2, below `2 ^ 33` and below the modulus. -/
def usable (key : PublicKey) : Bool :=
  key.modulus % 2 = 1 && key.modulus < Nat.pow 2 4096 && key.exponent % 2 = 1 &&
    2 ≤ key.exponent && key.exponent < Nat.pow 2 33 && key.exponent < key.modulus

/-- The two numbers of a sequence that holds nothing else. -/
def ofNumbers? (bs : Bytes) : Option PublicKey := do
  let (content, []) ← Der.read Der.sequenceTag bs | none
  let (modulus, content) ← Der.readInteger content
  let (exponent, []) ← Der.readInteger content | none
  return { modulus, exponent }

/-- The usable key of a document. -/
def ofDer? (der : Bytes) : Option PublicKey := do
  let (content, []) ← Der.read Der.sequenceTag der | none
  let (identifier, content) ← Der.read Der.sequenceTag content
  if identifier ≠ algorithm then none
  let (0 :: bits, []) ← Der.read Der.bitStringTag content | none
  let key ← ofNumbers? bits
  if key.usable then some key else none

/-- The modulus's length in bytes. -/
def size (key : PublicKey) : Nat :=
  Der.byteSize key.modulus

/-- The encryption of a message with a seed of 32 bytes. -/
def encrypt (key : PublicKey) (message seed : Bytes) : Except CryptoError Bytes :=
  if message.length + Oaep.overhead > key.size then .error (.wrapError "message too long")
  else
    let padded := Oaep.encode key.size seed message
    .ok (Bytes.ofNat key.size (powMod padded.toNat key.exponent key.modulus))

end PublicKey

/-- The encryption of a message under the key of a document, with a seed of 32 bytes. -/
def wrap (der message seed : Bytes) : Except CryptoError Bytes :=
  match PublicKey.ofDer? der with
  | none => .error (.publicKey "not a usable RSA public key")
  | some key => key.encrypt message seed

end AttestedModel.Rsa
