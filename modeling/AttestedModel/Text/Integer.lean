/-!
# Integers in text

Decimal digits with an optional sign.  The digits are read in turn, and the first
one that is none, or that passes the limit, decides what is wrong.
-/

namespace AttestedModel.Text.Integer

/-- Why a text is no integer in range. -/
inductive Fault
  | empty
  | invalidDigit
  | tooLarge
  | tooSmall
deriving DecidableEq, Repr

/-- The wording of a fault. -/
def Fault.message : Fault → String
  | empty => "cannot parse integer from empty string"
  | invalidDigit => "invalid digit found in string"
  | tooLarge => "number too large to fit in target type"
  | tooSmall => "number too small to fit in target type"

/-- The number of the digits after `n`, at most `limit`. -/
def digitsFrom (limit : Nat) (n : Nat) : List Char → Except Fault Nat
  | [] => .ok n
  | c :: cs =>
    if !c.isDigit then .error .invalidDigit
    else
      let n := n * 10 + (c.toNat - 48)
      if n ≤ limit then digitsFrom limit n cs else .error .tooLarge

/-- The number of one digit at least. -/
def someDigits (limit : Nat) (cs : List Char) : Except Fault Nat :=
  if cs.isEmpty then .error .invalidDigit else digitsFrom limit 0 cs

/-- The natural number of a text, at most `limit`.  A plus sign may come first. -/
def natural (limit : Nat) (text : String) : Except Fault Nat :=
  match text.toList with
  | [] => .error .empty
  | '+' :: cs => someDigits limit cs
  | cs => digitsFrom limit 0 cs

/-- The integer of a text, at least `-least` and at most `greatest`. -/
def signed (least greatest : Nat) (text : String) : Except Fault Int :=
  match text.toList with
  | [] => .error .empty
  | '+' :: cs => (someDigits greatest cs).map Int.ofNat
  | '-' :: cs =>
    match someDigits least cs with
    | .ok n => .ok (-(n : Int))
    | .error .tooLarge => .error .tooSmall
    | .error fault => .error fault
  | cs => (digitsFrom greatest 0 cs).map Int.ofNat

end AttestedModel.Text.Integer
