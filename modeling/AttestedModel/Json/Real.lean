import AttestedModel.Decimal.Shortest
import AttestedModel.Json.Tree

/-!
# Real numbers in JSON

How a numeral is read as a binary number, and how a binary number is written.

Reading keeps as many leading digits as fit into 64 bits and counts the others
in the power of ten.  Writing gives the shortest decimal, with at least one digit
after the point: positionally from `1e-5` up to below `1e16`, and otherwise with
one digit before the point and an exponent.
-/

namespace AttestedModel.Json

open Decimal (Binary64 Digits)

/-- The greatest number that digits are gathered into. -/
def greatestSignificand : Nat := Nat.pow 2 64 - 1

/-- The number of the digits before the point that fit, after `n`, and how many do not. -/
def gatherWhole (n : Nat) : List Nat → Nat × Nat
  | [] => (n, 0)
  | d :: ds =>
    if n * 10 + d ≤ greatestSignificand then gatherWhole (n * 10 + d) ds
    else (n, ds.length + 1)

/-- The number of the digits after the point that fit, after `n`, and how many do. -/
def gatherFraction (n : Nat) : List Nat → Nat × Nat
  | [] => (n, 0)
  | d :: ds =>
    if n * 10 + d ≤ greatestSignificand then
      let (n, kept) := gatherFraction (n * 10 + d) ds
      (n, kept + 1)
    else (n, 0)

/-- The power of ten that a numeral names. -/
def Numeral.scale (n : Numeral) : Int :=
  match n.exponent with
  | none => 0
  | some (negative, ds) => if negative then -(ofDigits ds : Int) else ofDigits ds

/-- The binary number of a numeral; none past the greatest one. -/
def Numeral.toReal? (n : Numeral) : Option Binary64 :=
  let (whole, dropped) := gatherWhole 0 n.whole
  let (significand, kept) := gatherFraction whole n.fraction
  (Decimal.Magnitude.scaled? significand (n.scale + dropped - kept)).map (⟨n.negative, ·⟩)

/-- The digits of a decimal, first digit first. -/
def digitsOf (d : Digits) : List Nat :=
  let ds := digits d.value
  List.replicate (d.length - ds.length) 0 ++ ds

/-- The numeral of a decimal. -/
def Numeral.ofDigits (negative : Bool) (d : Digits) : Numeral :=
  let ds := digitsOf d
  if -4 ≤ d.point ∧ d.point ≤ 0 then
    { negative, whole := [0], fraction := List.replicate (-d.point).toNat 0 ++ ds,
      exponent := none }
  else if 0 < d.point ∧ d.point ≤ 16 then
    let point := d.point.toNat
    let fraction := ds.drop point
    { negative
      whole := ds.take point ++ List.replicate (point - ds.length) 0
      fraction := if fraction.isEmpty then [0] else fraction
      exponent := none }
  else
    let exponent := d.point - 1
    { negative
      whole := ds.take 1
      fraction := ds.drop 1
      exponent := some (exponent < 0, digits exponent.natAbs) }

/-- The numeral of a binary number. -/
def Numeral.ofReal (x : Binary64) : Numeral :=
  if x.magnitude.significand = 0 then
    { negative := x.negative, whole := [0], fraction := [0], exponent := none }
  else .ofDigits x.negative (Decimal.shortest x.magnitude)

end AttestedModel.Json
