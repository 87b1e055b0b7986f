import AttestedModel.Bytes

/-!
# The AES block cipher

The block is four columns of four bytes.  A round substitutes each byte,
rotates the rows, mixes each column and adds a round key; the last round does
not mix.  The substitution is the inverse in the byte field followed by an
affine map, and is computed from that rule once.

Every step is a bijection of the block, so the cipher is one for each key.
-/

namespace AttestedModel.Cipher.Aes

/-- Doubling in the byte field. -/
def double (b : UInt8) : UInt8 :=
  if b &&& 0x80 = 0 then b <<< 1 else (b <<< 1) ^^^ 0x1b

/-- Multiplication in the byte field, over the low `bits` bits of the first factor. -/
def fieldMul : (bits : Nat) → (a b : UInt8) → UInt8
  | 0, _, _ => 0
  | bits + 1, a, b =>
    (if a &&& 1 = 0 then 0 else b) ^^^ fieldMul bits (a >>> 1) (double b)

/-- The inverse in the byte field, which is the power 254; zero goes to zero. -/
def fieldInverse (b : UInt8) : UInt8 :=
  (List.range 254).foldl (fun power _ => fieldMul 8 power b) 1

/-- The affine map of the substitution. -/
def affine (b : UInt8) : UInt8 :=
  let rotate (n : UInt8) := b <<< n ||| b >>> (8 - n)
  b ^^^ rotate 1 ^^^ rotate 2 ^^^ rotate 3 ^^^ rotate 4 ^^^ 0x63

/-- The substitution of every byte. -/
def substitutionTable : Array UInt8 :=
  ((List.range 256).map fun n => affine (fieldInverse (UInt8.ofNat n))).toArray

/-- The substitution. -/
def substitute (b : UInt8) : UInt8 :=
  substitutionTable.getD b.toNat 0

/-- Four bytes. -/
structure Column where
  (b0 b1 b2 b3 : UInt8)
deriving DecidableEq, Inhabited

namespace Column

/-- The bytewise exclusive or. -/
def add (x y : Column) : Column :=
  ⟨x.b0 ^^^ y.b0, x.b1 ^^^ y.b1, x.b2 ^^^ y.b2, x.b3 ^^^ y.b3⟩

/-- The substitution of each byte. -/
def substituted (x : Column) : Column :=
  ⟨substitute x.b0, substitute x.b1, substitute x.b2, substitute x.b3⟩

/-- The bytes moved up by one place. -/
def rotated (x : Column) : Column :=
  ⟨x.b1, x.b2, x.b3, x.b0⟩

/-- The product with the circulant matrix of 2, 3, 1, 1. -/
def mixed (x : Column) : Column :=
  let all := x.b0 ^^^ x.b1 ^^^ x.b2 ^^^ x.b3
  ⟨x.b0 ^^^ all ^^^ double (x.b0 ^^^ x.b1), x.b1 ^^^ all ^^^ double (x.b1 ^^^ x.b2),
   x.b2 ^^^ all ^^^ double (x.b2 ^^^ x.b3), x.b3 ^^^ all ^^^ double (x.b3 ^^^ x.b0)⟩

/-- Four bytes of a list; missing bytes are zero. -/
def ofBytes (bs : Bytes) : Column :=
  ⟨bs.getD 0 0, bs.getD 1 0, bs.getD 2 0, bs.getD 3 0⟩

/-- The bytes in order. -/
def toBytes (x : Column) : Bytes :=
  [x.b0, x.b1, x.b2, x.b3]

end Column

/-- The block under encryption, and a round key. -/
structure Square where
  (c0 c1 c2 c3 : Column)
deriving DecidableEq, Inhabited

namespace Square

/-- The addition of a round key. -/
def add (x y : Square) : Square :=
  ⟨x.c0.add y.c0, x.c1.add y.c1, x.c2.add y.c2, x.c3.add y.c3⟩

/-- The substitution of each byte. -/
def substituted (x : Square) : Square :=
  ⟨x.c0.substituted, x.c1.substituted, x.c2.substituted, x.c3.substituted⟩

/-- Row `i` rotated by `i` places. -/
def shifted (x : Square) : Square :=
  ⟨⟨x.c0.b0, x.c1.b1, x.c2.b2, x.c3.b3⟩, ⟨x.c1.b0, x.c2.b1, x.c3.b2, x.c0.b3⟩,
   ⟨x.c2.b0, x.c3.b1, x.c0.b2, x.c1.b3⟩, ⟨x.c3.b0, x.c0.b1, x.c1.b2, x.c2.b3⟩⟩

/-- Each column mixed. -/
def mixed (x : Square) : Square :=
  ⟨x.c0.mixed, x.c1.mixed, x.c2.mixed, x.c3.mixed⟩

/-- Sixteen bytes of a list, column by column. -/
def ofBytes (bs : Bytes) : Square :=
  ⟨Column.ofBytes bs, Column.ofBytes (bs.drop 4), Column.ofBytes (bs.drop 8),
   Column.ofBytes (bs.drop 12)⟩

/-- The sixteen bytes, column by column. -/
def toBytes (x : Square) : Bytes :=
  x.c0.toBytes ++ x.c1.toBytes ++ x.c2.toBytes ++ x.c3.toBytes

/-- A block has sixteen bytes. -/
@[simp] theorem length_toBytes (x : Square) : x.toBytes.length = 16 := rfl

end Square

/-- The round keys in order of use. -/
structure Schedule where
  first : Square
  middle : List Square
  last : Square

/-- The words of the key schedule: each new word is the word `keyWords` places before, plus
the last word, which every `keyWords`-th time is rotated, substituted and marked with a power
of two, and in the middle of a long key is substituted. -/
def expand (keyWords : Nat) : (count : Nat) → (words : Array Column) → Array Column
  | 0, words => words
  | count + 1, words =>
    let i := words.size
    let last := words.getD (i - 1) default
    let marked :=
      if i % keyWords = 0 then
        let mark := (List.range (i / keyWords - 1)).foldl (fun m _ => double m) 1
        last.rotated.substituted.add ⟨mark, 0, 0, 0⟩
      else if keyWords > 6 ∧ i % keyWords = 4 then last.substituted
      else last
    expand keyWords count (words.push ((words.getD (i - keyWords) default).add marked))

/-- The schedule of a key of 16, 24 or 32 bytes, with 10, 12 or 14 rounds. -/
def Schedule.ofKey (key : Bytes) : Schedule :=
  let words := key.length / 4
  let rounds := words + 6
  let start := ((List.range words).map fun i => Column.ofBytes (key.drop (4 * i))).toArray
  let all := expand words (4 * (rounds + 1) - words) start
  let get (i : Nat) := all.getD i default
  let roundKey (r : Nat) : Square :=
    ⟨get (4 * r), get (4 * r + 1), get (4 * r + 2), get (4 * r + 3)⟩
  { first := roundKey 0
    middle := (List.range (rounds - 1)).map fun r => roundKey (r + 1)
    last := roundKey rounds }

/-- The encryption of one block. -/
def encrypt (keys : Schedule) (x : Square) : Square :=
  let inner := keys.middle.foldl (fun s k => s.substituted.shifted.mixed.add k) (x.add keys.first)
  inner.substituted.shifted.add keys.last

end AttestedModel.Cipher.Aes
