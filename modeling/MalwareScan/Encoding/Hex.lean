import MalwareScan.Bytes

/-!
# Hexadecimal

Digests are shown as two lower-case hexadecimal digits per byte.
-/

namespace MalwareScan.Hex

/-- The digit for a value below 16. -/
def digit (n : Nat) : Char :=
  Nat.digitChar n

/-- The two digits of `b`. -/
def ofByte (b : UInt8) : List Char :=
  [digit (b.toNat / 16), digit (b.toNat % 16)]

/-- `bytes` in hexadecimal. -/
def encode (bytes : Bytes) : String :=
  String.ofList (bytes.flatMap ofByte)

/-- The value of a hexadecimal digit of either case. -/
def value? (c : Char) : Option Nat :=
  let n := c.toNat
  if 48 ≤ n && n ≤ 57 then some (n - 48)
  else if 97 ≤ n && n ≤ 102 then some (n - 87)
  else if 65 ≤ n && n ≤ 70 then some (n - 55)
  else none

end MalwareScan.Hex
