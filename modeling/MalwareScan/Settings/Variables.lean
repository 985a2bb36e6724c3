import MalwareScan.Proxy.Selection
import MalwareScan.Settings.Basic
import MalwareScan.Text.Blank
import MalwareScan.Text.Numeral

/-!
# Settings from variables

The variables of the process overrule the settings of a file. A proxy may be given in upper or in
lower case; the upper case wins.
-/

namespace MalwareScan.Settings

open Proxy (Environment)

/-- The value of the first of two variables that is set. -/
def either (env : Environment) (first second : String) : Option String :=
  (env first).or (env second)

/-- The timeout that a variable states. -/
def timeoutOf? (text : String) : Option UInt64 :=
  Text.uint64? (Text.trim text)

/-- The settings, overruled by the variables that are set. A timeout that is no number is ignored.
-/
def mergeVariables (settings : Settings) (env : Environment) : Settings :=
  let service := settings.service
  let proxy := settings.proxy
  let logging := settings.logging
  { settings with
    service := { service with
      region := (env "AMSCAN_REGION").getD service.region
      host := (env "AMSCAN_HOST").or service.host
      apiKey := (env "AMSCAN_API_KEY").or service.apiKey
      timeoutSeconds := ((env "AMSCAN_TIMEOUT").bind timeoutOf?).getD service.timeoutSeconds }
    proxy := {
      httpProxy := (either env "HTTP_PROXY" "http_proxy").or proxy.httpProxy
      httpsProxy := (either env "HTTPS_PROXY" "https_proxy").or proxy.httpsProxy
      noProxy := (either env "NO_PROXY" "no_proxy").or proxy.noProxy
      user := (env "PROXY_USER").or proxy.user
      password := (env "PROXY_PASS").or proxy.password }
    logging := {
      level := (env "AMSCAN_LOG_LEVEL").getD logging.level
      format := (env "AMSCAN_LOG_FORMAT").getD logging.format } }

end MalwareScan.Settings
