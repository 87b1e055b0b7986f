/-!
# Numbers of 53 binary digits

A finite binary64 number is a sign and an exact magnitude, a natural number
times a power of two.  Sums never occur here: numbers are rounded from exact
quotients, to the nearest number and on a tie to the even one.

`Binary64.scaled` is how a row of decimal digits with a power of ten becomes a
number: the digits are rounded first, then one product or quotient after another
with a power of ten that is itself rounded.  The result can differ in its last
digit from the number nearest to the decimal.
-/

namespace AttestedModel.Decimal

/-- Binary digits that a magnitude keeps. -/
def precision : Nat := 53

/-- The least exponent. -/
def leastExponent : Int := -1074

/-- The greatest exponent. -/
def greatestExponent : Int := 971

/-- The magnitude `significand * 2 ^ exponent`. -/
structure Magnitude where
  significand : Nat
  exponent : Int
deriving DecidableEq, Repr

/-- A finite number. -/
structure Binary64 where
  negative : Bool
  magnitude : Magnitude
deriving DecidableEq, Repr

/-- The natural number nearest to a quotient, the even one of two. -/
def nearest (num den : Nat) : Nat :=
  let whole := num / den
  let twice := 2 * (num % den)
  if twice < den then whole
  else if twice = den then whole + whole % 2
  else whole + 1

namespace Magnitude

/-- Zero. -/
def zero : Magnitude := ⟨0, 0⟩

/-- The numerator and the denominator of the exact value. -/
def ratio (m : Magnitude) : Nat × Nat :=
  (m.significand * Nat.pow 2 m.exponent.toNat, Nat.pow 2 (-m.exponent).toNat)

/-- The exponent with which the quotient of two positive numbers keeps all its digits. -/
def exponentOf (num den : Nat) : Int :=
  let guess : Int := (num.log2 : Int) - (den.log2 : Int) - 52
  -- The quotient has 53 digits above this power of two, or one digit less.
  let scaled := (num * Nat.pow 2 (-guess).toNat) / (den * Nat.pow 2 guess.toNat)
  max leastExponent (if scaled < Nat.pow 2 52 then guess - 1 else guess)

/-- The magnitude nearest to a quotient; none past the greatest one. -/
def ofRatio? (num den : Nat) : Option Magnitude :=
  if num = 0 then some zero
  else
    let exponent := exponentOf num den
    let digits := nearest (num * Nat.pow 2 (-exponent).toNat) (den * Nat.pow 2 exponent.toNat)
    let (digits, exponent) :=
      if digits = Nat.pow 2 precision then (Nat.pow 2 52, exponent + 1) else (digits, exponent)
    if digits = 0 then some zero
    else if exponent > greatestExponent then none
    else some ⟨digits, exponent⟩

/-- The rounded product. -/
def mul? (a b : Magnitude) : Option Magnitude :=
  ofRatio? (a.ratio.1 * b.ratio.1) (a.ratio.2 * b.ratio.2)

/-- The rounded quotient by a positive magnitude. -/
def div? (a b : Magnitude) : Option Magnitude :=
  ofRatio? (a.ratio.1 * b.ratio.2) (a.ratio.2 * b.ratio.1)

/-- The rounded power of ten, for an exponent of at most 308. -/
def tenTo (k : Nat) : Magnitude :=
  (ofRatio? (Nat.pow 10 k) 1).getD zero

/-- The greatest exponent of a power of ten that is a number. -/
def greatestTen : Nat := 308

/-- The magnitude divided so many times by `divisor`, until it is zero. -/
def divRepeatedly? (m divisor : Magnitude) : (times : Nat) → Option Magnitude
  | 0 => some m
  | times + 1 =>
    if m.significand = 0 then some m
    else (m.div? divisor).bind fun m => m.divRepeatedly? divisor times

/-- The magnitude divided by `10 ^ k`, by at most `10 ^ 308` at a time. -/
def shrink? (m : Magnitude) (k : Nat) : Option Magnitude :=
  let times := (k - 1) / greatestTen
  (m.divRepeatedly? (tenTo greatestTen) times).bind fun m =>
    m.div? (tenTo (k - times * greatestTen))

/-- The digits `n` times `10 ^ exponent`; none past the greatest magnitude. -/
def scaled? (n : Nat) (exponent : Int) : Option Magnitude :=
  match ofRatio? n 1 with
  | none => none
  | some m =>
    if exponent < 0 then m.shrink? (-exponent).toNat
    else if exponent.toNat ≤ greatestTen then m.mul? (tenTo exponent.toNat)
    else if m.significand = 0 then some zero
    else none

end Magnitude

namespace Binary64

/-- Positive zero. -/
def zero : Binary64 := ⟨false, .zero⟩

end Binary64

end AttestedModel.Decimal
