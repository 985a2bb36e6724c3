import MalwareScan.Text.Utf8
import MalwareScan.Url.Domain.Direction
import MalwareScan.Url.Domain.Folding
import MalwareScan.Url.Domain.Joining
import MalwareScan.Url.Punycode

/-!
# Domain names

The ASCII form of a domain name: the name is folded and composed, and a label with characters beyond
ASCII is written in punycode. A label that is in punycode already must stand for one that is folded
and composed. Some ASCII characters never stand in a name.
-/

namespace MalwareScan.Url.Domain

/-- The ASCII characters that no domain name has. -/
def isForbidden (c : Char) : Bool :=
  c.toNat ≤ 0x20 || c.toNat == 0x7F ||
    ['%', '#', '/', ':', '<', '>', '?', '@', '[', '\\', ']', '^', '|'].contains c

/-- The prefix of a label in punycode. -/
def punycodeMark : List Char := ['x', 'n', '-', '-']

/-- A text of ASCII characters. -/
def isAscii (cs : List Char) : Bool :=
  cs.all fun c => c.toNat < 128

/-- The most characters of a label in punycode that are read. -/
def maxEncoded : Nat := 2000

/-- The most characters of a label that is written in punycode. -/
def maxPlain : Nat := 1000

/-- A folded label with characters beyond ASCII that may stand in a name. -/
def isLabel (label : List Char) : Bool :=
  label.all (fun c => c.toNat < 128 || isPlain c) && isWellJoined label &&
    label.take 4 ≠ punycodeMark

/-- What a folded label stands for: the characters behind its punycode, or itself. -/
def plainLabel? (label : List Char) : Option (List Char) :=
  if label.take 4 = punycodeMark then do
    guard (label.length ≤ maxEncoded + 4)
    let plain ← Punycode.decode? (label.drop 4)
    guard (!isAscii plain && isLabel plain && Text.compose plain == plain && !plain.any isForbidden)
    some plain
  else if isAscii label ∨ isLabel label ∧ label.length ≤ maxPlain then some label
  else none

/-- The ASCII form of a label. -/
def asciiLabel (plain : List Char) : List Char :=
  if isAscii plain then plain else punycodeMark ++ Punycode.encode plain

/-- The folded and composed form of a name. -/
def normalForm (name : List Char) : List Char :=
  let folded := name.flatMap fold
  if isAscii folded then folded else Text.compose folded

/-- The ASCII form of a domain name that is given by its bytes. -/
def toAscii? (bytes : Bytes) : Option (List Char) := do
  let name ← Text.Utf8.decode? bytes
  let normal := normalForm name.toList
  guard (!normal.any isForbidden)
  let labels ← (normal.splitOn '.').mapM plainLabel?
  guard (isAscii labels.flatten || isReadable labels)
  some (['.'].intercalate (labels.map asciiLabel))

end MalwareScan.Url.Domain
