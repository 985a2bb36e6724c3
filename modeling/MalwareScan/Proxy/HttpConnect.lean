import MalwareScan.Encoding.Base64
import MalwareScan.Proxy.Duplex
import MalwareScan.Proxy.Endpoint
import MalwareScan.Text.Utf8

/-!
# Tunnels through HTTP proxies

The client asks for a tunnel with a CONNECT request. The proxy answers with a block of headers,
which is read byte by byte, so that nothing behind it is consumed.
-/

namespace MalwareScan.Proxy.HttpConnect

/-- The most bytes of a block of headers. -/
def maxHead : Nat := 8192

/-- The target as the request states it: a host with a colon stands in brackets. -/
def authority (host : String) (port : UInt16) : String :=
  if host.toList.contains ':' then "[" ++ host ++ "]:" ++ toString port
  else host ++ ":" ++ toString port

/-- The request. -/
def request (host : String) (port : UInt16) (login : Option Login) : Bytes :=
  let target := authority host port
  let line := match login with
    | some login =>
      "Proxy-Authorization: Basic " ++
        Base64.encode (Text.Utf8.encode (login.user ++ ":" ++ login.password)) ++ "\r\n"
    | none => ""
  Text.Utf8.encode
    ("CONNECT " ++ target ++ " HTTP/1.1\r\nHost: " ++ target ++ "\r\n" ++ line ++ "\r\n")

/-- The bytes that end a block of headers, last one first. -/
def endMark : Bytes := [10, 13, 10, 13]

/-- Reads a block of headers of at most `room` more bytes; `read` is what was read so far, last byte
first. -/
def readHead : (room : Nat) → (read : Bytes) → Handshake Bytes
  | room, read =>
    if endMark.isPrefixOf read then pure read.reverse
    else
      match room with
      | 0 => Handshake.fail "proxy CONNECT response too large"
      | room + 1 => do
        match ← Handshake.readByte? with
        | none => Handshake.fail "proxy closed connection during CONNECT"
        | some b => readHead room (b :: read)

/-- The first line of a block of headers. -/
def statusLine (head : Bytes) : List Char :=
  let line := (Text.Utf8.decodeLossy head).takeWhile (· != '\n')
  if line.getLast? = some '\r' then line.dropLast else line

/-- The status of a first line: its second word. -/
def statusOf (line : List Char) : List Char :=
  (Text.words line).getD 1 []

/-- The handshake. -/
def run (host : String) (port : UInt16) (login : Option Login) : Handshake Unit := do
  Handshake.send (request host port login)
  let head ← readHead maxHead []
  let line := statusLine head
  if statusOf line = ['2', '0', '0'] then pure ()
  else Handshake.fail ("proxy CONNECT refused: " ++ String.ofList line)

end MalwareScan.Proxy.HttpConnect
