import MalwareScan.Proxy.HttpConnect
import MalwareScan.Proxy.Socks5

/-!
# Tunnels

The handshake that opens a tunnel through a proxy, by the proxy's protocol.
-/

namespace MalwareScan.Proxy

/-- Opens a tunnel to a host over a connection to the proxy. -/
def Endpoint.openTunnel (endpoint : Endpoint) (host : String) (port : UInt16) : Handshake Unit :=
  match endpoint.kind with
  | .http => HttpConnect.run host port endpoint.login
  | .socks5 => Socks5.run host port endpoint.login

end MalwareScan.Proxy
