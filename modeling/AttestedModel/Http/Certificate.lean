import AttestedModel.Rsa.Der
import AttestedModel.Text.Armor

/-!
# Certificates

What a client trusts beside its built-in roots: the certificates of armored
files.  A certificate is trusted as it stands, so that its signature is never
checked; but its form is.  It is a sequence of what is certified, an algorithm
and a signature, and what is certified is written in one of two forms: the later
one says its version first, names the algorithm once more and may have
extensions.
-/

namespace AttestedModel.Http.Certificate

/-- The tag of a truth value. -/
def booleanTag : UInt8 := 0x01

/-- The tag of a byte string. -/
def octetStringTag : UInt8 := 0x04

/-- The tag of an object identifier. -/
def identifierTag : UInt8 := 0x06

/-- The tag around the extensions. -/
def extensionsTag : UInt8 := 0xa3

/-- Bytes from which on the content of an element is too long. -/
def contentLimit : Nat := 65535

/-- The content of the element with this tag at the front, and what follows it. -/
def element? (tag : UInt8) (bs : Bytes) : Option (Bytes × Bytes) :=
  (Rsa.Der.read tag bs).filter fun (content, _) => content.length < contentLimit

/-- The content of an element with this tag that nothing follows. -/
def only? (tag : UInt8) (bs : Bytes) : Option Bytes := do
  let (content, []) ← element? tag bs | none
  some content

/-- What follows elements with these tags. -/
def after? : (tags : List UInt8) → (bs : Bytes) → Option Bytes
  | [], bs => some bs
  | tag :: tags, bs => do after? tags (← element? tag bs).2

/-- An extension. -/
structure Extension where
  identifier : Bytes
  /-- It is marked as one that must be understood. -/
  critical : Bool
  value : Bytes
deriving DecidableEq, Repr

namespace Extension

/-- Whether an extension is critical, and what follows; without a word on it, it is not. -/
def critical? (bs : Bytes) : Option (Bool × Bytes) :=
  if bs.head? = some booleanTag then do
    match ← element? booleanTag bs with
    | ([0x00], rest) => some (false, rest)
    | ([0xff], rest) => some (true, rest)
    | _ => none
  else some (false, bs)

/-- The extension that the content of an element writes. -/
def ofContent? (content : Bytes) : Option Extension := do
  let (identifier, rest) ← element? identifierTag content
  let (critical, rest) ← critical? rest
  return { identifier, critical, value := ← only? octetStringTag rest }

/-- The number of the extension that says what the key may be used for. -/
def keyUsage : UInt8 := 15

/-- The numbers of the extensions that are known: key usage, alternative names, basic and name
constraints, places of revocation lists, and extended key usage. -/
def knownNumbers : List UInt8 := [keyUsage, 17, 19, 30, 31, 37]

/-- The number of a known extension among those that every certificate may have. -/
def number? (e : Extension) : Option UInt8 :=
  match e.identifier with
  | [0x55, 0x1d, number] => if number ∈ knownNumbers then some number else none
  | _ => none

/-- An extension that can be dealt with.  The value of a known one is a sequence, except for the
key usage, which is taken as it is.  Others say nothing of trust, not even critical ones. -/
def isUsable (e : Extension) : Bool :=
  match e.number? with
  | some number => number = keyUsage || (only? Rsa.Der.sequenceTag e.value).isSome
  | none => true

end Extension

/-- The contents of sequences, one after the other; there are at most `fuel` of them. -/
def sequences? : (fuel : Nat) → (bs : Bytes) → Option (List Bytes)
  | _, [] => some []
  | 0, _ :: _ => none
  | fuel + 1, bs => do
    let (content, rest) ← element? Rsa.Der.sequenceTag bs
    return content :: (← sequences? fuel rest)

/-- What follows the key are usable extensions, if there is anything, and no known one comes
twice. -/
def extensionsUsable (bs : Bytes) : Bool :=
  bs = [] || (do
    let content ← only? Rsa.Der.sequenceTag (← only? extensionsTag bs)
    let extensions ← (← sequences? content.length content).mapM Extension.ofContent?
    return extensions.all Extension.isUsable ∧
      (extensions.filterMap Extension.number?).Nodup : Option Bool) = some true

/-- What the later form begins with: its version, the third. -/
def thirdVersion : Bytes := [0xa0, 0x03, 0x02, 0x01, 0x02]

/-- The tags of what stands between the algorithm and the extensions: the issuer, the span of
time, the subject and the key. -/
def partTags : List UInt8 := List.replicate 4 Rsa.Der.sequenceTag

/-- What is certified, in the later form, under an algorithm. -/
def isThirdVersion (algorithm certified : Bytes) : Bool :=
  thirdVersion.isPrefixOf certified && (do
    let (_, rest) ← element? Rsa.Der.integerTag (certified.drop thirdVersion.length)
    let (inner, rest) ← element? Rsa.Der.sequenceTag rest
    let rest ← after? partTags rest
    return inner = algorithm ∧ extensionsUsable rest : Option Bool) = some true

/-- What is certified, in the first form: a serial number, an algorithm, and the parts. -/
def isFirstVersion (certified : Bytes) : Bool :=
  after? (Rsa.Der.integerTag :: Rsa.Der.sequenceTag :: partTags) certified = some []

/-- The bytes have the form of a certificate.  The signature has whole bytes. -/
def wellFormed (der : Bytes) : Bool :=
  (do
    let content ← only? Rsa.Der.sequenceTag der
    let (certified, rest) ← element? Rsa.Der.sequenceTag content
    let (algorithm, rest) ← element? Rsa.Der.sequenceTag rest
    let signature ← only? Rsa.Der.bitStringTag rest
    return signature.head? = some 0 ∧
      (isThirdVersion algorithm certified ∨ isFirstVersion certified) : Option Bool) = some true

/-- The label of certificates. -/
def label : Bytes := Text.Utf8.encode "CERTIFICATE"

/-- The labels of sections whose content is read. -/
def labels : List Bytes :=
  ["CERTIFICATE", "PUBLIC KEY", "RSA PRIVATE KEY", "PRIVATE KEY", "EC PRIVATE KEY", "X509 CRL",
    "CERTIFICATE REQUEST", "ECHCONFIG"].map Text.Utf8.encode

/-- The certificates of a file; none if a section cannot be read or a certificate is malformed. -/
def ofFile? (content : Bytes) : Option (List Bytes) := do
  let sections ← Text.Armor.sections? labels content
  let certificates := (sections.filter (·.label = label)).map (·.content)
  if certificates.all wellFormed then some certificates else none

end AttestedModel.Http.Certificate
