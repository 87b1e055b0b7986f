import AttestedModel.Bytes

/-!
# Distinguished encoding

An element is a tag byte, a length and a content.  Every length and every
integer has one written form, the shortest, and reading accepts no other.
-/

namespace AttestedModel.Rsa.Der

/-- The tag of an integer. -/
def integerTag : UInt8 := 0x02

/-- The tag of a bit string. -/
def bitStringTag : UInt8 := 0x03

/-- The tag of a sequence. -/
def sequenceTag : UInt8 := 0x30

/-- The number of bytes that write `n`; one for zero. -/
def byteSize (n : Nat) : Nat :=
  n.log2 / 8 + 1

/-- The shortest bytes that write `n`, most significant first. -/
def shortest (n : Nat) : Bytes :=
  Bytes.ofNat (byteSize n) n

/-- The written form of a length. -/
def lengthBytes (n : Nat) : Bytes :=
  if n < 128 then [UInt8.ofNat n]
  else UInt8.ofNat (128 + byteSize n) :: shortest n

/-- An element with its tag, length and content. -/
def element (tag : UInt8) (content : Bytes) : Bytes :=
  tag :: lengthBytes content.length ++ content

/-- The integer `n`.  A zero byte goes in front where the first bit would be a sign. -/
def integer (n : Nat) : Bytes :=
  let bs := shortest n
  element integerTag (if bs.head? |>.any (· ≥ 128) then 0 :: bs else bs)

/-- The length at the front of `bs`, and what follows it. -/
def readLength : (bs : Bytes) → Option (Nat × Bytes)
  | [] => none
  | b :: bs =>
    if b < 128 then some (b.toNat, bs)
    else
      let count := b.toNat - 128
      let digits := bs.take count
      let n := Bytes.toNat digits
      if count = 0 ∨ count > 4 ∨ digits.length < count ∨ n < 128 ∨ byteSize n ≠ count then none
      else some (n, bs.drop count)

/-- The content of the element with this tag at the front of `bs`, and what follows it. -/
def read (tag : UInt8) : (bs : Bytes) → Option (Bytes × Bytes)
  | [] => none
  | b :: bs =>
    if b ≠ tag then none
    else
      match readLength bs with
      | none => none
      | some (n, rest) => if rest.length < n then none else some (rest.take n, rest.drop n)

/-- The natural number at the front of `bs`, and what follows it.  Negative numbers and
superfluous zeros are refused. -/
def readInteger (bs : Bytes) : Option (Nat × Bytes) :=
  match read integerTag bs with
  | none => none
  | some (content, rest) =>
    match content with
    | [] => none
    | [b] => if b ≥ 128 then none else some (b.toNat, rest)
    | b :: c :: _ =>
      if b ≥ 128 ∨ (b = 0 ∧ c < 128) then none else some (Bytes.toNat content, rest)

end AttestedModel.Rsa.Der
