import AttestedModel.Bytes

/-!
# The SHA-2 family

SHA-256 and SHA-512 are one construction over words of 32 and 64 bits: the same
padding, the same message schedule and the same round, with other rotation
amounts.  The constants of both are the leading bits of the fractional parts of
roots of the first primes, and are computed here from that rule.

Key facts: a digest has 32 or 64 bytes (`length_sha256`, `length_sha512`).
-/

namespace AttestedModel.Digest

/-- The first `count` primes; all of them are below 420 for `count ≤ 80`. -/
def firstPrimes (count : Nat) : List Nat :=
  ((List.range 420).filter fun n =>
    2 ≤ n && (List.range n).all fun d => d < 2 || n % d != 0).take count

/-- The greatest number whose `k`-th power is at most `n`, for roots below `2 ^ 72`. -/
def integerRoot (k n : Nat) : Nat :=
  (List.range 72).reverse.foldl
    (fun root i => if Nat.pow (root + Nat.pow 2 i) k ≤ n then root + Nat.pow 2 i else root) 0

/-- The first `bits` bits after the point of the `k`-th root of `n`. -/
def rootFraction (bits k n : Nat) : Nat :=
  integerRoot k (n * Nat.pow 2 (k * bits)) % Nat.pow 2 bits

/-- What tells the members of the family apart.  The sixteen-word block, the eight
registers and the shape of the round are common to all. -/
structure Variant (w : Type) where
  /-- Bytes in a word. -/
  wordBytes : Nat
  /-- A number, reduced to a word. -/
  ofNat : Nat → w
  /-- The number a word stands for. -/
  toNat : w → Nat
  /-- Rotation to the right. -/
  rotate : w → Nat → w
  /-- Shift to the right. -/
  shift : w → Nat → w
  /-- The two rotations and the shift of the schedule's first mixing function. -/
  scheduleLow : Nat × Nat × Nat
  /-- The two rotations and the shift of the schedule's second mixing function. -/
  scheduleHigh : Nat × Nat × Nat
  /-- The three rotations applied to the first register in a round. -/
  roundLow : Nat × Nat × Nat
  /-- The three rotations applied to the fifth register in a round. -/
  roundHigh : Nat × Nat × Nat
  /-- One constant for each round. -/
  constants : List w
  /-- The registers before the first block. -/
  initial : List w

/-- The eight working registers. -/
structure Registers (w : Type) where
  (a b c d e f g h : w)

namespace Registers

/-- The registers in order. -/
def toList {w : Type} (r : Registers w) : List w :=
  [r.a, r.b, r.c, r.d, r.e, r.f, r.g, r.h]

/-- Eight words as registers; missing words are `zero`. -/
def ofList {w : Type} (zero : w) (ws : List w) : Registers w :=
  let get (i : Nat) := ws.getD i zero
  ⟨get 0, get 1, get 2, get 3, get 4, get 5, get 6, get 7⟩

end Registers

section
variable {w : Type} [Add w] [XorOp w] [AndOp w] [Complement w]

namespace Variant

/-- Two rotations and a shift, combined. -/
def mixShift (v : Variant w) (amounts : Nat × Nat × Nat) (x : w) : w :=
  v.rotate x amounts.1 ^^^ v.rotate x amounts.2.1 ^^^ v.shift x amounts.2.2

/-- Three rotations, combined. -/
def mixRotate (v : Variant w) (amounts : Nat × Nat × Nat) (x : w) : w :=
  v.rotate x amounts.1 ^^^ v.rotate x amounts.2.1 ^^^ v.rotate x amounts.2.2

/-- The message schedule: `count` words that continue a window of sixteen. -/
def schedule (v : Variant w) : (count : Nat) → (window : List w) → List w
  | 0, _ => []
  | count + 1, window =>
    let get (i : Nat) := window.getD i (v.ofNat 0)
    let next := v.mixShift v.scheduleHigh (get 14) + get 9 +
      v.mixShift v.scheduleLow (get 1) + get 0
    get 0 :: schedule v count (window.drop 1 ++ [next])

/-- One round, with its constant and its word of the schedule. -/
def round (v : Variant w) (r : Registers w) (step : w × w) : Registers w :=
  let choice := (r.e &&& r.f) ^^^ (~~~ r.e &&& r.g)
  let majority := (r.a &&& r.b) ^^^ (r.a &&& r.c) ^^^ (r.b &&& r.c)
  let t1 := r.h + v.mixRotate v.roundHigh r.e + choice + step.1 + step.2
  let t2 := v.mixRotate v.roundLow r.a + majority
  ⟨t1 + t2, r.a, r.b, r.c, r.d + t1, r.e, r.f, r.g⟩

/-- The registers after a block. -/
def compress (v : Variant w) (r : Registers w) (block : Bytes) : Registers w :=
  let window := (block.chunks v.wordBytes).map fun piece => v.ofNat piece.toNat
  let words := v.schedule v.constants.length window
  let s := (v.constants.zip words).foldl v.round r
  ⟨r.a + s.a, r.b + s.b, r.c + s.c, r.d + s.d, r.e + s.e, r.f + s.f, r.g + s.g, r.h + s.h⟩

/-- The message, a one bit, zeros, and the message's length in bits in two words, so that
whole blocks come out. -/
def pad (v : Variant w) (message : Bytes) : Bytes :=
  let block := 16 * v.wordBytes
  let used := (message.length + 1 + 2 * v.wordBytes) % block
  message ++ 0x80 :: List.replicate ((block - used) % block) 0 ++
    Bytes.ofNat (2 * v.wordBytes) (message.length * 8)

/-- The digest of a message. -/
def digest (v : Variant w) (message : Bytes) : Bytes :=
  let last := ((v.pad message).chunks (16 * v.wordBytes)).foldl v.compress
    (Registers.ofList (v.ofNat 0) v.initial)
  last.toList.flatMap fun x => Bytes.ofNat v.wordBytes (v.toNat x)

/-- A digest has eight words. -/
theorem length_digest (v : Variant w) (message : Bytes) :
    (v.digest message).length = 8 * v.wordBytes := by
  simp only [digest, Registers.toList, List.flatMap_cons, List.flatMap_nil, List.append_nil,
    List.length_append, Bytes.length_ofNat]
  omega

end Variant

end

/-- The parameters of SHA-256. -/
def sha256Variant : Variant UInt32 where
  wordBytes := 4
  ofNat := UInt32.ofNat
  toNat := UInt32.toNat
  rotate x n := x >>> n.toUInt32 ||| x <<< (32 - n).toUInt32
  shift x n := x >>> n.toUInt32
  scheduleLow := (7, 18, 3)
  scheduleHigh := (17, 19, 10)
  roundLow := (2, 13, 22)
  roundHigh := (6, 11, 25)
  constants := (firstPrimes 64).map fun p => UInt32.ofNat (rootFraction 32 3 p)
  initial := (firstPrimes 8).map fun p => UInt32.ofNat (rootFraction 32 2 p)

/-- The parameters of SHA-512. -/
def sha512Variant : Variant UInt64 where
  wordBytes := 8
  ofNat := UInt64.ofNat
  toNat := UInt64.toNat
  rotate x n := x >>> n.toUInt64 ||| x <<< (64 - n).toUInt64
  shift x n := x >>> n.toUInt64
  scheduleLow := (1, 8, 7)
  scheduleHigh := (19, 61, 6)
  roundLow := (28, 34, 39)
  roundHigh := (14, 18, 41)
  constants := (firstPrimes 80).map fun p => UInt64.ofNat (rootFraction 64 3 p)
  initial := (firstPrimes 8).map fun p => UInt64.ofNat (rootFraction 64 2 p)

/-- The SHA-256 digest of a message. -/
def sha256 (message : Bytes) : Bytes :=
  sha256Variant.digest message

/-- The SHA-512 digest of a message. -/
def sha512 (message : Bytes) : Bytes :=
  sha512Variant.digest message

/-- A SHA-256 digest has 32 bytes. -/
@[simp] theorem length_sha256 (message : Bytes) : (sha256 message).length = 32 :=
  sha256Variant.length_digest message

/-- A SHA-512 digest has 64 bytes. -/
@[simp] theorem length_sha512 (message : Bytes) : (sha512 message).length = 64 :=
  sha512Variant.length_digest message

end AttestedModel.Digest
