import MalwareScan.Encoding.Hex
import MalwareScan.Text.Utf8

/-!
# Percent encoding

The parts of a URL keep only some characters as they are; the bytes of every other character are
written as `%` and two hexadecimal digits. Each part has its own set of characters that are encoded.
-/

namespace MalwareScan.Url

/-- A set of characters that are written as percent-encoded bytes. -/
abbrev EncodeSet := Char → Bool

namespace EncodeSet

/-- Control characters and everything beyond ASCII. -/
def controls : EncodeSet := fun c => c.toNat < 0x20 || 0x7E < c.toNat

/-- The set of a fragment. -/
def fragment : EncodeSet := fun c => controls c || [' ', '"', '<', '>', '\x60'].contains c

/-- The set of a query. -/
def query : EncodeSet := fun c => controls c || [' ', '"', '#', '<', '>'].contains c

/-- The set of a query behind a special scheme. -/
def specialQuery : EncodeSet := fun c => query c || c == '\''

/-- The set of a path. -/
def path : EncodeSet := fun c => fragment c || ['#', '?', '\x7b', '\x7d'].contains c

/-- The set of a user name and of a password. -/
def userinfo : EncodeSet := fun c =>
  path c || ['/', ':', ';', '=', '@', '[', '\\', ']', '^', '|'].contains c

end EncodeSet

/-- A byte as `%` and two upper-case digits. -/
def percentByte (b : UInt8) : List Char :=
  let digit (n : Nat) : Char := (Nat.digitChar n).toUpper
  ['%', digit (b.toNat / 16), digit (b.toNat % 16)]

/-- The characters of `cs`, those of the set encoded. -/
def percentEncode (set : EncodeSet) (cs : List Char) : List Char :=
  cs.flatMap fun c =>
    if set c then (Text.Utf8.encode (String.singleton c)).flatMap percentByte else [c]

/-- The byte that two hexadecimal digits denote. -/
def hexByte? (a b : UInt8) : Option UInt8 := do
  let high ← Hex.value? (Char.ofNat a.toNat)
  let low ← Hex.value? (Char.ofNat b.toNat)
  some (UInt8.ofNat (high * 16 + low))

/-- The bytes with each `%` and two digits replaced by the byte they denote. -/
def percentDecode : Bytes → Bytes
  | 0x25 :: a :: b :: rest =>
    match hexByte? a b with
    | some byte => byte :: percentDecode rest
    | none => 0x25 :: percentDecode (a :: b :: rest)
  | b :: rest => b :: percentDecode rest
  | [] => []

end MalwareScan.Url
