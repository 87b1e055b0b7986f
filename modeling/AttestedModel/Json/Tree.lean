/-!
# JSON documents

A document as a tree.  A string whose literal is well-formed but stands for no
Unicode text (a lone surrogate, bytes that are not UTF-8) is kept as `none`: it
may be skipped, but not read.  A number keeps its digits, since what it is worth
depends on the type it is read as.
-/

namespace AttestedModel

namespace Json

/-- A number as it is written, digit by digit. -/
structure Numeral where
  negative : Bool
  /-- The digits before the point. -/
  whole : List Nat
  /-- The digits after the point, none if there is no point. -/
  fraction : List Nat
  /-- The sign and the digits of the exponent, if there is one. -/
  exponent : Option (Bool × List Nat)
deriving DecidableEq, Repr

/-- The decimal digits of a number, first digit first. -/
def digits (n : Nat) : List Nat :=
  (Nat.toDigits 10 n).map fun c => c.toNat - 48

/-- The number of a row of decimal digits. -/
def ofDigits (ds : List Nat) : Nat :=
  ds.foldl (fun n d => n * 10 + d) 0

/-- The numeral of a natural number. -/
def Numeral.ofNat (n : Nat) : Numeral :=
  { negative := false, whole := digits n, fraction := [], exponent := none }

/-- The natural number below `limit` that a numeral writes without sign, point or exponent. -/
def Numeral.toNatBelow? (limit : Nat) (n : Numeral) : Option Nat :=
  if n.negative ∨ n.fraction ≠ [] ∨ n.exponent.isSome then none
  else if ofDigits n.whole < limit then some (ofDigits n.whole)
  else none

end Json

/-- A JSON document. -/
inductive Json
  | null
  | bool (value : Bool)
  | number (value : Json.Numeral)
  | string (value : Option String)
  | array (items : List Json)
  | object (members : List (Option String × Json))
deriving Inhabited

end AttestedModel
