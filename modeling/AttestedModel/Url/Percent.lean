import AttestedModel.Text.Utf8

/-!
# Percent-encoding

Characters that may not stand in a part of an address are written as the bytes
of their UTF-8 form, each as a percent sign and two upper-case digits.  Which
characters those are depends on the part; control characters, DEL and everything
past ASCII are always among them, a percent sign never.
-/

namespace AttestedModel.Url.Percent

/-- The upper-case digit of a value below sixteen. -/
def digit (n : Nat) : Char :=
  (Nat.digitChar n).toUpper

/-- The escape of a byte. -/
def escape (b : UInt8) : List Char :=
  ['%', digit (b.toNat / 16), digit (b.toNat % 16)]

/-- The characters that are escaped everywhere. -/
def always (c : Char) : Bool :=
  c.toNat < 0x20 || 0x7e < c.toNat

/-- The further characters that are escaped in a query. -/
def inQuery (c : Char) : Bool :=
  c ∈ [' ', '"', '#', '<', '>']

/-- The further characters that are escaped in a fragment. -/
def inFragment (c : Char) : Bool :=
  c ∈ [' ', '"', '<', '>', '\x60']

/-- The further characters that are escaped in a path. -/
def inPath (c : Char) : Bool :=
  inQuery c || c ∈ ['?', '\x60', '\x7b', '\x7d']

/-- The further characters that are escaped in a user name or a password. -/
def inCredentials (c : Char) : Bool :=
  inPath c || c ∈ ['/', ':', ';', '=', '@', '[', '\\', ']', '^', '|']

/-- A character, escaped if it is in the set. -/
def encodeChar (escaped : Char → Bool) (c : Char) : List Char :=
  if always c || escaped c then (String.utf8EncodeChar c).flatMap escape else [c]

/-- A text with the characters of a set escaped. -/
def encode (escaped : Char → Bool) (cs : List Char) : List Char :=
  cs.flatMap (encodeChar escaped)

/-- The value of a hexadecimal digit. -/
def hexValue? (c : Char) : Option Nat :=
  if '0' ≤ c ∧ c ≤ '9' then some (c.toNat - 48)
  else if 'a' ≤ c ∧ c ≤ 'f' then some (c.toNat - 87)
  else if 'A' ≤ c ∧ c ≤ 'F' then some (c.toNat - 55)
  else none

/-- The bytes that a text stands for; a percent sign without two digits stands for itself. -/
def decode : List Char → Bytes
  | [] => []
  | '%' :: a :: b :: rest =>
    match hexValue? a, hexValue? b with
    | some high, some low => UInt8.ofNat (high * 16 + low) :: decode rest
    | _, _ => 0x25 :: decode (a :: b :: rest)
  | c :: rest => String.utf8EncodeChar c ++ decode rest
termination_by cs => cs.length

end AttestedModel.Url.Percent
