import MalwareScan.Text.Blank
import MalwareScan.Text.Quoted
import MalwareScan.Url.Parse

/-!
# Proxy endpoints

A proxy is stated by a URL whose scheme names its protocol; a text without a scheme means HTTP. The
port is the one that is written, and otherwise that of the scheme.
-/

namespace MalwareScan.Proxy

/-- The protocols of proxies. -/
inductive Kind where
  | http
  | socks5
deriving DecidableEq, Repr

/-- The name of a protocol. -/
def Kind.name : Kind → String
  | http => "Http"
  | socks5 => "Socks5"

/-- A user and a password. -/
structure Login where
  user : String
  password : String
deriving DecidableEq, Repr

/-- A proxy to connect through. -/
structure Endpoint where
  kind : Kind
  host : String
  port : UInt16
  login : Option Login := none
deriving DecidableEq

/-- Why a text states no proxy. -/
inductive Fault where
  | url (fault : Url.UrlFault)
  | scheme (name : String)
  | noHost
deriving DecidableEq, Repr

/-- The text of a fault. -/
def Fault.message : Fault → String
  | url fault => fault.message
  | scheme name => "unsupported proxy scheme '" ++ name ++ "'"
  | noHost => "proxy URL has no host"

/-- The protocol of a scheme and its port. -/
def schemeOf? (name : String) : Option (Kind × UInt16) :=
  match name with
  | "http" => some (.http, 80)
  | "https" => some (.http, 443)
  | "socks5" | "socks5h" => some (.socks5, 1080)
  | _ => none

/-- The mark between a scheme and a host. -/
def schemeMark : List Char := [':', '/', '/']

/-- The URL that a text means. -/
def urlText (text : String) : String :=
  let trimmed := Text.trim text
  if Text.isPart schemeMark trimmed.toList then trimmed else "http://" ++ trimmed

/-- A host without brackets. -/
def bareHost (host : String) : String :=
  String.ofList (Text.dropLastWhile (· == ']') (host.toList.dropWhile (· == '[')))

namespace Endpoint

/-- The proxy that a text states. -/
def parse (text : String) (login : Option Login) : Except Fault Endpoint :=
  match Url.parse (urlText text) with
  | .error fault => .error (.url fault)
  | .ok url =>
    match schemeOf? url.scheme with
    | none => .error (.scheme url.scheme)
    | some (kind, port) =>
      match url.host with
      | none => .error .noHost
      | some host =>
        if host.text.isEmpty then .error .noHost
        else .ok { kind, host := bareHost host.text, port := url.port.getD port, login }

/-- What is shown of a proxy: everything but its login. -/
def describe (endpoint : Endpoint) : String :=
  "ProxyEndpoint \x7b kind: " ++ endpoint.kind.name ++ ", host: " ++ Text.quote endpoint.host ++
    ", port: " ++ toString endpoint.port ++ ", authenticated: " ++
    (if endpoint.login.isSome then "true" else "false") ++ " \x7d"

end Endpoint

end MalwareScan.Proxy
