import MalwareScan.Client.Address
import MalwareScan.Client.Settings
import MalwareScan.Files.System
import MalwareScan.Region
import MalwareScan.Wire.Status

/-!
# Connections to the scanner

A connection is prepared from the settings of a client: the scanner's address, the headers of each
call, the certificates that are trusted and the proxy on the way. Nothing is sent before the first
scan, so that every error here is one of the settings.
-/

namespace MalwareScan

open Files (FileSystem)
open Wire (Status)

/-- Whose certificates are trusted. -/
inductive Trust where
  | system
  | authority (certificates : Bytes)
deriving DecidableEq

/-- All that is needed to call the scanner. -/
structure Connection where
  address : ScannerAddress
  tls : Option Trust
  proxy : Option Proxy.Endpoint
  credentials : Credentials
  timeout : Duration

namespace Connection

/-- The certificates that are trusted for calls to `address`. -/
def trust (fs : FileSystem) (address : ScannerAddress) (caCertPath : Option String) :
    Outcome Trust := do
  let trust ← match caCertPath with
    | none => .ok .system
    | some path =>
      match fs.readFile path with
      | .ok certificates => .ok (.authority certificates)
      | .error fault =>
        .error (.tls ("Failed to read CA certificate " ++ path ++ ": " ++ fault.toIoFault.message))
  if address.isNameable then .ok trust else .error (.tls "transport error")

/-- Prepares a connection. -/
def prepare (fs : FileSystem) (settings : ClientSettings) : Outcome Connection := do
  let target ← Region.resolveTarget settings.region settings.host
  let credentials ← Credentials.new settings.apiKey settings.tokenKind settings.appName
  let address ← ScannerAddress.parse target settings.useTls
  address.validate settings.useTls
  let tls ←
    if settings.useTls then (trust fs address settings.caCertPath).map some else .ok none
  .ok {
    address, tls, credentials
    proxy := settings.proxies.endpointFor address.host
    timeout := effectiveTimeout settings.timeout }

/-- What a call fails with when neither the scanner nor the proxy can be reached. The reason is only
known on the way to a proxy. -/
def unreachable (connection : Connection) (reason : String) : Status :=
  ⟨.unavailable, if connection.proxy.isSome then reason else "tcp connect error"⟩

end Connection

end MalwareScan
