import MalwareScan.Client.Credentials
import MalwareScan.Options

/-!
# Settings

The settings of a scanner come in four sections: the service to talk to, the proxies on the way,
what is asked of each scan, and what is logged. Every section and nearly every setting has a
default.
-/

namespace MalwareScan

open Json (Codec Misfit Reading)

/-- The timeout of a scan in seconds, unless another one is set. -/
def defaultTimeoutSeconds : UInt64 := 300

/-- The region, unless another one is set. -/
def defaultRegion : String := "us-east-1"

/-- The service to talk to. -/
structure ServiceSettings where
  region : String := defaultRegion
  host : Option String := none
  apiKey : Option String := none
  tokenKind : TokenKind := .apiKey
  appName : String := defaultAppName
  timeoutSeconds : UInt64 := defaultTimeoutSeconds
  useTls : Bool := true
  caCertPath : Option String := none
deriving DecidableEq

/-- The proxies on the way to the service, and the hosts that are reached without one. -/
structure ProxySettings where
  httpProxy : Option String := none
  httpsProxy : Option String := none
  noProxy : Option String := none
  user : Option String := none
  password : Option String := none
deriving DecidableEq

/-- What is asked of each scan, and how many scans run at a time. -/
structure ScanSettings where
  pml : Bool := false
  feedback : Bool := false
  verbose : Bool := false
  activeContent : Bool := false
  digest : Bool := true
  tags : List String := []
  maxConcurrentScans : UInt64 := 5
deriving DecidableEq

/-- What is logged. -/
structure LogSettings where
  level : String := "info"
  format : String := "compact"
deriving DecidableEq

/-- All settings. -/
structure Settings where
  service : ServiceSettings := {}
  proxy : ProxySettings := {}
  scan : ScanSettings := {}
  logging : LogSettings := {}
deriving DecidableEq

/-- The timeout of a scan in seconds: zero stands for the default. -/
def ServiceSettings.effectiveTimeout (service : ServiceSettings) : UInt64 :=
  if service.timeoutSeconds = 0 then defaultTimeoutSeconds else service.timeoutSeconds

/-- The options of each scan. -/
def ScanSettings.options (scan : ScanSettings) : ScanOptions :=
  { pml := scan.pml, feedback := scan.feedback, verbose := scan.verbose
    activeContent := scan.activeContent, tags := scan.tags }

/-! ## How settings are written and read -/

/-- The kind of key with the given name. -/
def TokenKind.ofSettingName? (name : String) : Option TokenKind :=
  [TokenKind.apiKey, TokenKind.bearer].find? fun kind => kind.settingName = name

/-- A value that says nothing: a table or an array without content. -/
def Json.Reading.isHollow : Reading → Bool
  | .object [] _ => true
  | .sequence [] => true
  | _ => false

/-- Kinds of keys, by name. A table whose one member has the name and says nothing is read too. -/
def TokenKind.codec : Codec TokenKind where
  decode reading :=
    let name? := match reading with
      | .string (.ok name) => some name
      | .object [(.ok name, content)] _ => if content.isHollow then some name else none
      | _ => none
    match name?.bind TokenKind.ofSettingName? with
    | some kind => .ok kind
    | none => .error (reading.unsuited "the name of a kind of key")
  encode kind := .string kind.settingName

namespace ServiceSettings

/-- How the section is written. -/
def codec : Codec ServiceSettings :=
  let default : ServiceSettings := {}
  .record "ServiceConfig"
    (.cons { name := "region", codec := .text, get := region, absent := .always default.region } <|
      .cons { name := "host", codec := .option .text, get := host, absent := .unnamed none } <|
      .cons { name := "api_key", codec := .option .text, get := apiKey, absent := .unnamed none } <|
      .cons { name := "token_type", codec := TokenKind.codec, get := tokenKind
              absent := .always default.tokenKind } <|
      .cons { name := "app_name", codec := .text, get := appName
              absent := .always default.appName } <|
      .cons { name := "timeout_seconds", codec := .uint64, get := timeoutSeconds
              absent := .always default.timeoutSeconds } <|
      .cons { name := "use_tls", codec := .boolean, get := useTls
              absent := .always default.useTls } <|
      .cons { name := "ca_cert_path", codec := .option .text, get := caCertPath
              absent := .unnamed none } .nil)
    fun (region, host, apiKey, tokenKind, appName, timeoutSeconds, useTls, caCertPath, ()) =>
      { region, host, apiKey, tokenKind, appName, timeoutSeconds, useTls, caCertPath }

end ServiceSettings

namespace ProxySettings

/-- How the section is written. -/
def codec : Codec ProxySettings :=
  .record "ProxySettings"
    (.cons { name := "http_proxy", codec := .option .text, get := httpProxy
             absent := .unnamed none } <|
      .cons { name := "https_proxy", codec := .option .text, get := httpsProxy
              absent := .unnamed none } <|
      .cons { name := "no_proxy", codec := .option .text, get := noProxy
              absent := .unnamed none } <|
      .cons { name := "user", codec := .option .text, get := user, absent := .unnamed none } <|
      .cons { name := "pass", codec := .option .text, get := password
              absent := .unnamed none } .nil)
    fun (httpProxy, httpsProxy, noProxy, user, password, ()) =>
      { httpProxy, httpsProxy, noProxy, user, password }

end ProxySettings

namespace ScanSettings

/-- How the section is written. -/
def codec : Codec ScanSettings :=
  let default : ScanSettings := {}
  .record "ScanConfig"
    (.cons { name := "pml", codec := .boolean, get := pml, absent := .always default.pml } <|
      .cons { name := "feedback", codec := .boolean, get := feedback
              absent := .always default.feedback } <|
      .cons { name := "verbose", codec := .boolean, get := verbose
              absent := .always default.verbose } <|
      .cons { name := "active_content", codec := .boolean, get := activeContent
              absent := .always default.activeContent } <|
      .cons { name := "digest", codec := .boolean, get := digest
              absent := .always default.digest } <|
      .cons { name := "tags", codec := .list .text, get := tags, absent := .always default.tags } <|
      .cons { name := "max_concurrent_scans", codec := .uint64, get := maxConcurrentScans
              absent := .always default.maxConcurrentScans } .nil)
    fun (pml, feedback, verbose, activeContent, digest, tags, maxConcurrentScans, ()) =>
      { pml, feedback, verbose, activeContent, digest, tags, maxConcurrentScans }

end ScanSettings

namespace LogSettings

/-- How the section is written. -/
def codec : Codec LogSettings :=
  let default : LogSettings := {}
  .record "LoggingConfig"
    (.cons { name := "level", codec := .text, get := level, absent := .always default.level } <|
      .cons { name := "format", codec := .text, get := format
              absent := .always default.format } .nil)
    fun (level, format, ()) => { level, format }

end LogSettings

namespace Settings

/-- How settings are written. -/
def codec : Codec Settings :=
  .record "Config"
    (.cons { name := "service", codec := ServiceSettings.codec, get := service
             absent := .always {} } <|
      .cons { name := "proxy", codec := ProxySettings.codec, get := proxy, absent := .always {} } <|
      .cons { name := "scan", codec := ScanSettings.codec, get := scan, absent := .always {} } <|
      .cons { name := "logging", codec := LogSettings.codec, get := logging
              absent := .always {} } .nil)
    fun (service, proxy, scan, logging, ()) => { service, proxy, scan, logging }

end Settings

end MalwareScan
