import MalwareScan.Proxy.Selection
import MalwareScan.Settings.Basic

/-!
# What a client needs to know

A client is made from the service to talk to, the caller's key, the timeout of its scans and the
proxies on the way.
-/

namespace MalwareScan

/-- The timeout of a scan, unless another one is set. -/
def defaultTimeout : Duration :=
  .ofMillis (defaultTimeoutSeconds.toNat * 1000)

/-- A timeout of zero stands for the default. -/
def effectiveTimeout (timeout : Duration) : Duration :=
  if timeout.nanos = 0 then defaultTimeout else timeout

/-- What a client needs to know. -/
structure ClientSettings where
  region : String
  host : Option String := none
  apiKey : String
  tokenKind : TokenKind := .apiKey
  appName : String := defaultAppName
  timeout : Duration := defaultTimeout
  useTls : Bool := true
  caCertPath : Option String := none
  proxies : Proxy.Selection
deriving DecidableEq

namespace ClientSettings

/-- The settings of a client with the given region and key, and the proxies that the variables of
the process state. -/
def new (env : Proxy.Environment) (region apiKey : String) : ClientSettings :=
  { region, apiKey, proxies := .ofEnvironment env }

/-- The settings of a client without a key. -/
def default (env : Proxy.Environment) : ClientSettings :=
  new env defaultRegion ""

/-- The settings of a client with another timeout. -/
def withTimeout (settings : ClientSettings) (timeout : Duration) : ClientSettings :=
  { settings with timeout := effectiveTimeout timeout }

end ClientSettings

/-- The proxies that the settings name. -/
def ProxySettings.selection (proxy : ProxySettings) : Proxy.Selection :=
  .new proxy.httpProxy proxy.httpsProxy proxy.noProxy proxy.user proxy.password

/-- The settings of the client for a whole program. -/
def Settings.client (settings : Settings) : ClientSettings :=
  let service := settings.service
  { region := service.region
    host := service.host
    apiKey := service.apiKey.getD ""
    tokenKind := service.tokenKind
    appName := service.appName
    timeout := .ofMillis (service.effectiveTimeout.toNat * 1000)
    useTls := service.useTls
    caCertPath := service.caCertPath
    proxies := settings.proxy.selection }

end MalwareScan
