/-!
# Punycode

Labels of any characters, written with letters, digits and hyphens.  The ASCII
characters come first; then, in the order of their code points, each other
character is written as how far it lies from the one before, counting both the
code points and the places where it could stand.  These distances are numbers of
mixed radix whose digits adapt to the numbers before.
-/

namespace AttestedModel.Url.Punycode

/-- The digit of a value below 36: a letter, or from 26 on a decimal digit. -/
def digit (n : Nat) : Char :=
  if n < 26 then Char.ofNat (97 + n) else Char.ofNat (22 + n)

/-- The value of a digit. -/
def value? (c : Char) : Option Nat :=
  if c.isDigit then some (c.toNat - 22)
  else if c.isLower then some (c.toNat - 97)
  else if c.isUpper then some (c.toNat - 65)
  else none

/-- The least value of a digit at place `k` that is not the last one. -/
def threshold (bias k : Nat) : Nat :=
  if k ≤ bias then 1 else min 26 (k - bias)

/-- A threshold is positive and below the radix. -/
theorem threshold_bounds (bias k : Nat) : 1 ≤ threshold bias k ∧ threshold bias k ≤ 26 := by
  unfold threshold
  split <;> omega

/-- The divisions by 35 that bring a distance below 456, as a count of places, and the rest. -/
def dampen (delta places : Nat) : Nat × Nat :=
  if 455 < delta then dampen (delta / 35) (places + 36) else (delta, places)
termination_by delta
decreasing_by omega

/-- The bias after a distance, where `count` characters are in place. -/
def adapt (delta count : Nat) (first : Bool) : Nat :=
  let delta := delta / (if first then 700 else 2)
  let (delta, places) := dampen (delta + delta / count) 0
  places + 36 * delta / (delta + 38)

/-- The digits of a number, from place `k` on. -/
def digits (bias k n : Nat) : List Char :=
  let t := threshold bias k
  if n < t then [digit n]
  else digit (t + (n - t) % (36 - t)) :: digits bias (k + 36) ((n - t) / (36 - t))
termination_by n
decreasing_by
  have := threshold_bounds bias k
  have := Nat.div_le_self (n - threshold bias k) (36 - threshold bias k)
  omega

/-- What has been written, and the distance since. -/
structure Writer where
  written : List Char
  delta : Nat
  bias : Nat
  /-- Characters in place. -/
  count : Nat

/-- Passes a character of the label on the way to those of code point `point`. -/
def Writer.pass (ascii point : Nat) (w : Writer) (c : Char) : Writer :=
  if c.toNat < point then { w with delta := w.delta + 1 }
  else if c.toNat = point then
    { written := w.written ++ digits w.bias 36 w.delta
      delta := 0
      bias := adapt w.delta (w.count + 1) (w.count = ascii)
      count := w.count + 1 }
  else w

/-- The least code point from `least` on. -/
def next? (least : Nat) (label : List Char) : Option Nat :=
  ((label.map Char.toNat).filter (least ≤ ·)).min?

/-- Writes the characters from code point `least` on, of at most `fuel` code points. -/
def Writer.run (label : List Char) (ascii : Nat) : (fuel least : Nat) → Writer → Writer
  | 0, _, w => w
  | fuel + 1, least, w =>
    match next? least label with
    | none => w
    | some point =>
      let w := { w with delta := w.delta + (point - least) * (w.count + 1) }
      let w := label.foldl (Writer.pass ascii point) w
      Writer.run label ascii fuel (point + 1) { w with delta := w.delta + 1 }

/-- A label with ASCII characters alone. -/
def encode (label : List Char) : List Char :=
  let ascii := label.filter (·.toNat < 0x80)
  let start : Writer := { written := [], delta := 0, bias := 72, count := ascii.length }
  ascii ++ (if ascii.isEmpty then [] else ['-']) ++
    (Writer.run label ascii.length label.length 0x80 start).written

/-- Numbers stay below this one, and so do the weights of their digits. -/
def numberLimit : Nat := 4294967296

/-- The number at the front, added to `n`, with what follows it. -/
def readNumber? (bias : Nat) : (cs : List Char) → (k weight n : Nat) → Option (Nat × List Char)
  | [], _, _, _ => none
  | c :: cs, k, weight, n => do
    let d ← value? c
    let t := threshold bias k
    let n := n + d * weight
    if numberLimit ≤ n then none
    else if d < t then some (n, cs)
    else if numberLimit ≤ weight * (36 - t) then none
    else readNumber? bias cs (k + 36) (weight * (36 - t)) n

/-- The label with the characters that `cs` writes put in, from code point `point` on.  Each
takes one character of `cs` at least, so that `fuel` bounds their number. -/
def insert? : (fuel : Nat) → (cs label : List Char) → (point place bias : Nat) →
    Option (List Char)
  | _, [], label, _, _, _ => some label
  | 0, _ :: _, _, _, _, _ => none
  | fuel + 1, cs, label, point, place, bias => do
    let (n, rest) ← readNumber? bias cs 36 1 place
    let count := label.length + 1
    let point := point + n / count
    if ¬ point.isValidChar then none
    insert? fuel rest (label.insertIdx (n % count) (Char.ofNat point)) point (n % count + 1)
      (adapt (n - place) count (place = 0))

/-- The ASCII characters of a label, and the digits after the last hyphen.  A hyphen before all
else parts nothing from them. -/
def cut (cs : List Char) : List Char × List Char :=
  let digits := (cs.reverse.takeWhile (· ≠ '-')).reverse
  if cs.length ≤ digits.length + 1 then ([], cs)
  else (cs.take (cs.length - digits.length - 1), digits)

/-- The label that ASCII characters write. -/
def decode? (cs : List Char) : Option (List Char) :=
  let (ascii, digits) := cut cs
  insert? digits.length digits ascii 0x80 0 72

end AttestedModel.Url.Punycode
