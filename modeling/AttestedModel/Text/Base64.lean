import AttestedModel.Bytes

/-!
# Base64

The standard alphabet with padding.  Three bytes become four characters; one or
two bytes at the end are padded.  A text is read only if it is what some byte
string is written as: padding may be neither missing nor superfluous, and the
bits of the last character that carry no byte are zero.
-/

namespace AttestedModel.Text.Base64

/-- The character of six bits. -/
def symbol (n : Nat) : Char :=
  if n < 26 then Char.ofNat (65 + n)
  else if n < 52 then Char.ofNat (97 + (n - 26))
  else if n < 62 then Char.ofNat (48 + (n - 52))
  else if n = 62 then '+'
  else '/'

/-- The six bits of a character. -/
def value? (c : Char) : Option Nat :=
  let n := c.toNat
  if 65 ≤ n ∧ n ≤ 90 then some (n - 65)
  else if 97 ≤ n ∧ n ≤ 122 then some (n - 97 + 26)
  else if 48 ≤ n ∧ n ≤ 57 then some (n - 48 + 52)
  else if c = '+' then some 62
  else if c = '/' then some 63
  else none

/-- Each character of the alphabet has its value. -/
theorem value?_symbol {n : Nat} (h : n < 64) : value? (symbol n) = some n := by
  have all : ∀ m ∈ List.range 64, value? (symbol m) = some m := by decide
  exact all n (List.mem_range.mpr h)

/-- The characters of a byte string. -/
def chars : Bytes → List Char
  | a :: b :: c :: rest =>
    let n := a.toNat * 65536 + b.toNat * 256 + c.toNat
    symbol (n / 262144) :: symbol (n / 4096 % 64) :: symbol (n / 64 % 64) :: symbol (n % 64) ::
      chars rest
  | [a, b] =>
    let n := a.toNat * 1024 + b.toNat * 4
    [symbol (n / 4096), symbol (n / 64 % 64), symbol (n % 64), '=']
  | [a] =>
    let n := a.toNat * 16
    [symbol (n / 64), symbol (n % 64), '=', '=']
  | [] => []

/-- The byte of two characters; the last four bits of the second are zero. -/
def oneByte? (a b : Char) : Option Bytes := do
  let n := (← value? a) * 64 + (← value? b)
  if n % 16 = 0 then some [UInt8.ofNat (n / 16)] else none

/-- The two bytes of three characters; the last two bits of the third are zero. -/
def twoBytes? (a b c : Char) : Option Bytes := do
  let n := (← value? a) * 4096 + (← value? b) * 64 + (← value? c)
  if n % 4 = 0 then some [UInt8.ofNat (n / 1024), UInt8.ofNat (n / 4)] else none

/-- The three bytes of four characters. -/
def threeBytes? (a b c d : Char) : Option Bytes := do
  let n := (← value? a) * 262144 + (← value? b) * 4096 + (← value? c) * 64 + (← value? d)
  return [UInt8.ofNat (n / 65536), UInt8.ofNat (n / 256), UInt8.ofNat n]

/-- The bytes of the characters. -/
def bytes? : List Char → Option Bytes
  | [] => some []
  | [a, b, '=', '='] => oneByte? a b
  | [a, b, c, '='] => twoBytes? a b c
  | a :: b :: c :: d :: rest => do
    let front ← threeBytes? a b c d
    return front ++ (← bytes? rest)
  | _ => none

/-- The text of a byte string. -/
def encode (bs : Bytes) : String :=
  String.ofList (chars bs)

/-- The byte string that a text writes. -/
def decode? (text : String) : Option Bytes :=
  bytes? text.toList

end AttestedModel.Text.Base64
