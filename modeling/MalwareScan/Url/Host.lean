import MalwareScan.Net.Address
import MalwareScan.Url.Domain
import MalwareScan.Url.PercentEncoding

/-!
# Hosts of URLs

A host is a name or an address. Behind a special scheme names are domain names, and a name that ends
in a number is an IPv4 address, in any of its lenient forms. Behind other schemes a name is kept as
it is.
-/

namespace MalwareScan.Url

/-- Why a text is no URL. -/
inductive UrlFault where
  | emptyHost
  | invalidPort
  | invalidIpv4
  | invalidIpv6
  | invalidCharacter
  | invalidName
  | relative
deriving DecidableEq, Repr

/-- The text of a fault. -/
def UrlFault.message : UrlFault → String
  | emptyHost => "empty host"
  | invalidPort => "invalid port number"
  | invalidIpv4 => "invalid IPv4 address"
  | invalidIpv6 => "invalid IPv6 address"
  | invalidCharacter => "invalid domain character"
  | invalidName => "invalid international domain name"
  | relative => "relative URL without a base"

/-- The host of a URL. -/
inductive Host where
  | name (text : String)
  | v4 (ip : Net.Ipv4)
  | v6 (ip : Net.Ipv6)
deriving DecidableEq

/-- The text of a host in a URL. -/
def Host.text : Host → String
  | name text => text
  | v4 ip => ip.text
  | v6 ip => "[" ++ ip.text ++ "]"

/-- The value of digits in base `base`. -/
def digitsIn? (base : Nat) (cs : List Char) : Option Nat :=
  cs.foldlM (fun n c =>
    match Hex.value? c with
    | some d => if d < base then some (base * n + d) else none
    | none => none) 0

/-- A part of a lenient IPv4 address: decimal, octal behind `0`, hexadecimal behind `0x`. -/
def lenientNumber? (cs : List Char) : Option Nat :=
  match cs with
  | [] => none
  | '0' :: 'x' :: rest | '0' :: 'X' :: rest => digitsIn? 16 rest
  | '0' :: d :: rest => digitsIn? 8 (d :: rest)
  | cs => digitsIn? 10 cs

/-- The parts of a name between dots, without an empty one at the end. -/
def dottedParts (cs : List Char) : List (List Char) :=
  let parts := cs.splitOn '.'
  if parts.getLast? = some [] then parts.dropLast else parts

/-- The last part of the name is a number, so that the name has to be an address. -/
def endsInNumber (cs : List Char) : Bool :=
  match (dottedParts cs).getLast? with
  | none => false
  | some last =>
    (!last.isEmpty && last.all Char.isDigit) || (lenientNumber? last).isSome

/-- The address of a lenient form: up to four numbers, of which the last one fills the bytes that
the others leave. -/
def lenientIpv4? (cs : List Char) : Option Net.Ipv4 := do
  let parts := dottedParts cs
  if 4 < parts.length then none
  else
    let numbers ← parts.mapM lenientNumber?
    let last ← numbers.getLast?
    let front := numbers.dropLast
    if front.any (fun n => 255 < n) ∨ Nat.pow 256 (4 - front.length) ≤ last then none
    else
      let high := front.zipIdx.map fun (n, i) => n * Nat.pow 256 (3 - i)
      some ⟨UInt32.ofNat (high.foldl (· + ·) last)⟩

/-- A host in brackets. -/
def bracketHost? (cs : List Char) : Except UrlFault Host :=
  if cs.getLast? ≠ some ']' then .error .invalidIpv6
  else
    match Net.Ipv6.parse? (cs.drop 1).dropLast with
    | some ip => .ok (.v6 ip)
    | none => .error .invalidIpv6

/-- The host of a special scheme. -/
def specialHost? (cs : List Char) : Except UrlFault Host :=
  if cs.head? = some '[' then bracketHost? cs
  else
    match Domain.toAscii? (percentDecode (Text.Utf8.encode (String.ofList cs))) with
    | none => .error .invalidName
    | some [] => .error .emptyHost
    | some name =>
      if endsInNumber name then
        match lenientIpv4? name with
        | some ip => .ok (.v4 ip)
        | none => .error .invalidIpv4
      else .ok (.name (String.ofList name))

/-- The characters that no host has. -/
def isForbiddenInHost (c : Char) : Bool :=
  ['\x00', '\t', '\n', '\r', ' ', '#', '/', ':', '<', '>', '?', '@', '[', '\\', ']', '^',
    '|'].contains c

/-- The host of any other scheme. -/
def opaqueHost? (cs : List Char) : Except UrlFault Host :=
  if cs.head? = some '[' then bracketHost? cs
  else if cs.any isForbiddenInHost then .error .invalidCharacter
  else .ok (.name (String.ofList (percentEncode EncodeSet.controls cs)))

end MalwareScan.Url
