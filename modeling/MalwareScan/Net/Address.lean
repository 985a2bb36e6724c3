import MalwareScan.Bytes
import MalwareScan.Encoding.Hex
import MalwareScan.Text.Numeral

/-!
# Internet addresses

IPv4 addresses in dotted form and IPv6 addresses in groups of hexadecimal digits. Reading is strict:
decimal parts have no leading zeros, groups have at most four digits, and `::` stands for at least
one group.
-/

namespace MalwareScan.Net

/-- An IPv4 address. -/
structure Ipv4 where
  value : UInt32
deriving DecidableEq, Repr

/-- An IPv6 address. -/
structure Ipv6 where
  groups : Vector UInt16 8
deriving DecidableEq, Repr

/-- One part of a dotted address: at most three digits, without a leading zero, below 256. -/
def octet? (cs : List Char) : Option UInt8 :=
  if cs.isEmpty ∨ 3 < cs.length ∨ cs.any (fun c => !c.isDigit) then none
  else if cs.head? = some '0' ∧ 1 < cs.length then none
  else if Text.digitsValue cs < 256 then some (UInt8.ofNat (Text.digitsValue cs)) else none

namespace Ipv4

/-- The address with the given bytes. -/
def ofBytes (a b c d : UInt8) : Ipv4 :=
  ⟨Bytes.toUInt32 a b c d⟩

/-- The bytes of an address. -/
def bytes (ip : Ipv4) : Bytes :=
  Bytes.ofUInt32 ip.value

/-- The two halves of an address. -/
def groups (ip : Ipv4) : List UInt16 :=
  let high : UInt32 := ip.value >>> 16
  [high.toUInt16, ip.value.toUInt16]

/-- The address in dotted form. -/
def parse? (cs : List Char) : Option Ipv4 :=
  match cs.splitOn '.' with
  | [a, b, c, d] => do some (ofBytes (← octet? a) (← octet? b) (← octet? c) (← octet? d))
  | _ => none

/-- The dotted form of an address. -/
def text (ip : Ipv4) : String :=
  ".".intercalate (ip.bytes.map fun b => toString b.toNat)

end Ipv4

/-- The value of hexadecimal digits. -/
def hexValue? (digits : List Char) : Option Nat :=
  digits.foldlM (fun n c => (Hex.value? c).map (16 * n + ·)) 0

/-- One group of an IPv6 address. -/
def group? (cs : List Char) : Option UInt16 :=
  if cs.isEmpty ∨ 4 < cs.length then none else (hexValue? cs).map UInt16.ofNat

/-- The groups between colons; the last two may be given as an IPv4 address. -/
def groups? : List (List Char) → Option (List UInt16)
  | [] => some []
  | [last] =>
    if last.contains '.' then (Ipv4.parse? last).map Ipv4.groups
    else (group? last).map fun g => [g]
  | part :: parts => do
    let g ← group? part
    let gs ← groups? parts
    some (g :: gs)

/-- The groups of a text between two ends of an address, which may be empty. -/
def side? (cs : List Char) : Option (List UInt16) :=
  if cs.isEmpty then some [] else groups? (cs.splitOn ':')

/-- The text before and after the first `::`. -/
def splitDouble : List Char → Option (List Char × List Char)
  | ':' :: ':' :: rest => some ([], rest)
  | c :: rest => (splitDouble rest).map fun (front, back) => (c :: front, back)
  | [] => none

namespace Ipv6

/-- The address of eight groups. -/
def ofList? (groups : List UInt16) : Option Ipv6 :=
  if h : groups.length = 8 then some ⟨⟨groups.toArray, by simp [h]⟩⟩ else none

/-- The groups of an address. -/
def toList (ip : Ipv6) : List UInt16 :=
  ip.groups.toList

/-- The bytes of an address. -/
def bytes (ip : Ipv6) : Bytes :=
  ip.toList.flatMap Bytes.ofUInt16

/-- The address that a text states. An embedded IPv4 address stands at the end. -/
def parse? (cs : List Char) : Option Ipv6 :=
  match splitDouble cs with
  | none => (side? cs).bind ofList?
  | some (front, back) => do
    if front.contains '.' then none
    else
      let head ← side? front
      let tail ← side? back
      if head.length + tail.length ≤ 7 then
        ofList? (head ++ List.replicate (8 - head.length - tail.length) 0 ++ tail)
      else none

/-- The hexadecimal digits of a group, without leading zeros. -/
def groupText (g : UInt16) : String :=
  String.ofList (Nat.toDigits 16 g.toNat)

/-- The length of the run of zeros at the beginning. -/
def zeroRun (groups : List UInt16) : Nat :=
  (groups.takeWhile (· == 0)).length

/-- The first of the longest runs of zeros, with its length. -/
def longestRun (groups : List UInt16) : Nat × Nat :=
  (List.range 8).foldl (fun (best : Nat × Nat) i =>
    let run := zeroRun (groups.drop i)
    if best.2 < run then (i, run) else best) (0, 0)

/-- The shortest text of an address: the first of its longest runs of two or more zeros is left
out. -/
def text (ip : Ipv6) : String :=
  let groups := ip.toList
  let join (gs : List UInt16) : String := ":".intercalate (gs.map groupText)
  let (start, run) := longestRun groups
  if run < 2 then join groups
  else join (groups.take start) ++ "::" ++ join (groups.drop (start + run))

end Ipv6

/-- An address of either kind. -/
inductive IpAddress where
  | v4 (ip : Ipv4)
  | v6 (ip : Ipv6)
deriving DecidableEq

/-- The address that a text states. -/
def IpAddress.parse? (cs : List Char) : Option IpAddress :=
  match Ipv4.parse? cs with
  | some ip => some (.v4 ip)
  | none => (Ipv6.parse? cs).map .v6

end MalwareScan.Net
