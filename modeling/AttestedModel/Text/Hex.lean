import AttestedModel.Bytes

/-!
# Hexadecimal text

Two lower-case digits for each byte, the high half first.
-/

namespace AttestedModel.Text.Hex

/-- The lower-case digit of a value below sixteen. -/
def digit (n : Nat) : Char :=
  Nat.digitChar n

/-- The two digits of a byte. -/
def ofByte (b : UInt8) : List Char :=
  [digit (b.toNat / 16), digit (b.toNat % 16)]

/-- The text of a byte string. -/
def encode (bs : Bytes) : String :=
  String.ofList (bs.flatMap ofByte)

end AttestedModel.Text.Hex
