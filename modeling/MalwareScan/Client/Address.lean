import MalwareScan.Error
import MalwareScan.Net.Address
import MalwareScan.Net.Uri
import MalwareScan.Text.Blank
import MalwareScan.Text.Numeral

/-!
# The address of the scanner

A user names the scanner by a host with or without a port. An IPv6 address stands in brackets when a
port follows. Without a port the default one of the scheme is used.
-/

namespace MalwareScan

/-- Host and port of a scanner. -/
structure ScannerAddress where
  host : String
  port : UInt16
deriving DecidableEq

namespace ScannerAddress

/-- The port that is used unless one is given. -/
def defaultPort (useTls : Bool) : UInt16 :=
  if useTls then 443 else 80

/-- The parts of a text before and after the first `c`. -/
def splitFirst (c : Char) : List Char → Option (List Char × List Char)
  | [] => none
  | d :: cs => if d = c then some ([], cs) else (splitFirst c cs).map fun (a, b) => (d :: a, b)

/-- The port in the address `target`. -/
def parsePort (target : String) (digits : List Char) : Outcome UInt16 :=
  match Text.uint16? (String.ofList digits) with
  | some port => .ok port
  | none => .error (.configuration ("Invalid port in scanner address " ++ target))

/-- The address that a text states. -/
def parse (text : String) (useTls : Bool) : Outcome ScannerAddress :=
  let cs := Text.trimChars text.toList
  let target := String.ofList cs
  match cs with
  | '[' :: rest =>
    match splitFirst ']' rest with
    | none => .error (.configuration ("Invalid scanner address " ++ target))
    | some (host, ':' :: digits) =>
      (parsePort target digits).map fun port => ⟨String.ofList host, port⟩
    | some (host, _) => .ok ⟨String.ofList host, defaultPort useTls⟩
  | cs =>
    match splitFirst ':' cs with
    | some (host, digits) =>
      if digits.contains ':' then .ok ⟨target, defaultPort useTls⟩
      else (parsePort target digits).map fun port => ⟨String.ofList host, port⟩
    | none => .ok ⟨target, defaultPort useTls⟩

/-- The address as it stands in a URI. -/
def authority (address : ScannerAddress) : String :=
  let host := if address.host.toList.contains ':' then "[" ++ address.host ++ "]" else address.host
  host ++ ":" ++ toString address.port

/-- The scheme of a connection. -/
def scheme (useTls : Bool) : String :=
  if useTls then "https" else "http"

/-- The address may stand in a URI. -/
def validate (address : ScannerAddress) (useTls : Bool) : Outcome Unit :=
  if Net.isUri (scheme useTls) address.authority then .ok ()
  else
    .error (.configuration ("Invalid scanner address " ++ address.authority ++ ": invalid URI"))

/-- The host can be named in a certificate. -/
def isNameable (address : ScannerAddress) : Bool :=
  let cs := address.host.toList
  Net.isDomainName cs || (Net.IpAddress.parse? cs).isSome

end ScannerAddress

end MalwareScan
