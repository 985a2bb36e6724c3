import MalwareScan.Net.Address
import MalwareScan.Proxy.Duplex
import MalwareScan.Proxy.Endpoint
import MalwareScan.Text.Utf8

/-!
# Tunnels through SOCKS5 proxies

The client offers methods of authentication, the proxy chooses one, and after the authentication the
client asks for a connection. Texts are sent behind one byte with their length.
-/

namespace MalwareScan.Proxy.Socks5

/-- The version of the protocol. -/
def version : UInt8 := 5

/-- The method without authentication. -/
def noLogin : UInt8 := 0

/-- The method with user and password. -/
def withLogin : UInt8 := 2

/-- The answer of a proxy that accepts none of the methods. -/
def noMethod : UInt8 := 255

/-- The offer of methods. -/
def greeting (login : Option Login) : Bytes :=
  if login.isSome then [version, 2, noLogin, withLogin] else [version, 1, noLogin]

/-- A text behind its length, if the length fits one byte. -/
def counted? (bytes : Bytes) : Option Bytes :=
  if bytes.length < 256 then some (UInt8.ofNat bytes.length :: bytes) else none

/-- The message with user and password. -/
def loginMessage (login : Login) : Except String Bytes :=
  match counted? (Text.Utf8.encode login.user) with
  | none => .error "SOCKS5 username too long"
  | some user =>
    match counted? (Text.Utf8.encode login.password) with
    | none => .error "SOCKS5 password too long"
    | some password => .ok (1 :: (user ++ password))

/-- A host as the request states it: an address by its bytes, and any other host as a text. -/
def hostBytes? (host : String) : Option Bytes :=
  match Net.IpAddress.parse? host.toList with
  | some (.v4 ip) => some (1 :: ip.bytes)
  | some (.v6 ip) => some (4 :: ip.bytes)
  | none => (counted? (Text.Utf8.encode host)).map (3 :: ·)

/-- The request for a connection. -/
def connectMessage (host : String) (port : UInt16) : Except String Bytes :=
  match hostBytes? host with
  | none => .error "target host name too long for SOCKS5"
  | some host => .ok ([version, 1, 0] ++ host ++ Bytes.ofUInt16 port)

/-- Sends a message, unless it cannot be written. -/
def sendMessage : Except String Bytes → Handshake Unit
  | .ok bytes => Handshake.send bytes
  | .error text => Handshake.fail text

/-- The authentication. -/
def authenticate (login : Login) : Handshake Unit := do
  sendMessage (loginMessage login)
  match ← Handshake.readExact 2 with
  | [_, 0] => pure ()
  | _ => Handshake.fail "SOCKS5 authentication failed"

/-- The length of the address in the reply to a request. -/
def addressLength (type : UInt8) : Handshake Nat :=
  if type = 1 then pure 4
  else if type = 4 then pure 16
  else if type = 3 then do
    let count ← Handshake.readExact 1
    pure (count.headD 0).toNat
  else Handshake.fail ("unknown SOCKS5 address type " ++ toString type)

/-- The reply to the request for a connection. -/
def readReply : Handshake Unit := do
  let reply ← Handshake.readExact 4
  let code := reply.getD 1 0
  if code ≠ 0 then Handshake.fail ("SOCKS5 connect failed with reply code " ++ toString code)
  else
    let length ← addressLength (reply.getD 3 0)
    let _ ← Handshake.readExact (length + 2)
    pure ()

/-- What follows the proxy's choice of a method. -/
def choose (login : Option Login) (method : UInt8) : Handshake Unit :=
  if method = noLogin then pure ()
  else
    match login with
    | some login =>
      if method = withLogin then authenticate login
      else if method = noMethod then
        Handshake.fail "SOCKS5 proxy rejected all authentication methods"
      else Handshake.fail ("SOCKS5 proxy chose unsupported method " ++ toString method)
    | none =>
      if method = noMethod then
        Handshake.fail "SOCKS5 proxy rejected all authentication methods"
      else Handshake.fail ("SOCKS5 proxy chose unsupported method " ++ toString method)

/-- The handshake. -/
def run (host : String) (port : UInt16) (login : Option Login) : Handshake Unit := do
  Handshake.send (greeting login)
  let choice ← Handshake.readExact 2
  let answered := choice.headD 0
  if answered ≠ version then
    Handshake.fail ("unexpected SOCKS version " ++ toString answered)
  else
    choose login (choice.getD 1 0)
    sendMessage (connectMessage host port)
    readReply

end MalwareScan.Proxy.Socks5
