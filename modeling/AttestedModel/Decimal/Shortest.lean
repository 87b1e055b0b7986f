import AttestedModel.Decimal.Binary64

/-!
# Shortest decimals

The decimal with the fewest digits that reads back as a number, and of those the
nearest one.  A decimal reads back when it lies between the midpoints to the
number's neighbours; the midpoints belong to it when the significand is even.

Of the multiples of a power of ten only the two around the number can be the
nearest inside that interval, so the search tries these two for one digit, for
two, and so on up to seventeen, which always suffice.
-/

namespace AttestedModel.Decimal

/-- The decimal `0.d₁d₂… * 10 ^ point`, its digits as one number of `length` digits. -/
structure Digits where
  value : Nat
  length : Nat
  point : Int
deriving DecidableEq, Repr

/-- A positive number and the midpoints to its neighbours, over one denominator. -/
structure Interval where
  lower : Nat
  value : Nat
  upper : Nat
  denominator : Nat
  closed : Bool

/-- The interval of a positive magnitude.  Below a power of two the neighbour is half as far. -/
def Interval.of (m : Magnitude) : Interval :=
  let unit := Nat.pow 2 m.exponent.toNat
  let nearer := m.significand = Nat.pow 2 52 && leastExponent < m.exponent
  { lower := (4 * m.significand - if nearer then 1 else 2) * unit
    value := 4 * m.significand * unit
    upper := (4 * m.significand + 2) * unit
    denominator := 4 * Nat.pow 2 (-m.exponent).toNat
    closed := m.significand % 2 = 0 }

/-- The candidate `n * 10 ^ grid` reads back. -/
def Interval.holds (i : Interval) (n : Nat) (grid : Int) : Bool :=
  let candidate := n * Nat.pow 10 grid.toNat * i.denominator
  let scale := Nat.pow 10 (-grid).toNat
  if i.closed then i.lower * scale ≤ candidate && candidate ≤ i.upper * scale
  else i.lower * scale < candidate && candidate < i.upper * scale

/-- The nearer of the two multiples of `10 ^ grid` around the value that read back. -/
def Interval.candidate? (i : Interval) (grid : Int) : Option Nat :=
  let num := i.value * Nat.pow 10 (-grid).toNat
  let den := i.denominator * Nat.pow 10 grid.toNat
  let below := num / den
  match i.holds below grid, i.holds (below + 1) grid with
  | true, true => some (nearest num den)
  | true, false => some below
  | false, true => some (below + 1)
  | false, false => none

/-- The number of decimal digits. -/
def digitCount (n : Nat) : Nat :=
  (Nat.toDigits 10 n).length

/-- The least `k` for which a quotient of positive numbers is below `10 ^ k`. -/
def decimalPoint (num den : Nat) : Int :=
  if den ≤ num then digitCount (num / den) else 1 - (digitCount ((den - 1) / num) : Int)

/-- The decimal without the zeros at its end. -/
def dropZeros (value length : Nat) : Nat × Nat :=
  if length ≤ 1 then (value, length)
  else if value % 10 = 0 then dropZeros (value / 10) (length - 1)
  else (value, length)
termination_by length

/-- The first digit count, from `count` on and `fuel` more, with a candidate. -/
def Interval.search (i : Interval) (point : Int) : (fuel count : Nat) → Digits
  | 0, count => ⟨0, count, point⟩
  | fuel + 1, count =>
    match i.candidate? (point - count) with
    | none => i.search point fuel (count + 1)
    | some n =>
      -- Rounding up can reach the next power of ten.
      let (n, point) :=
        if n = Nat.pow 10 count then (Nat.pow 10 (count - 1), point + 1) else (n, point)
      let (value, length) := dropZeros n count
      ⟨value, length, point⟩

/-- The shortest decimal of a positive magnitude. -/
def shortest (m : Magnitude) : Digits :=
  let i := Interval.of m
  i.search (decimalPoint i.value i.denominator) 17 1

end AttestedModel.Decimal
