import MalwareScan.Encoding.Hex
import MalwareScan.Error
import MalwareScan.Text.Blank
import MalwareScan.Text.Utf8

/-!
# Credentials of a call

Every call carries two headers: the authorization, made of a scheme and the caller's key, and the
name of the calling application. A header holds any text without control characters other than the
tab.
-/

namespace MalwareScan

/-- The kinds of keys. -/
inductive TokenKind where
  | apiKey
  | bearer
deriving DecidableEq, Repr

namespace TokenKind

/-- The scheme of the authorization. -/
def scheme : TokenKind → String
  | apiKey => "ApiKey"
  | bearer => "Bearer"

/-- The name of a kind in settings. -/
def settingName : TokenKind → String
  | apiKey => "api_key"
  | bearer => "bearer"

end TokenKind

/-- The application name that is sent unless another one is set. -/
def defaultAppName : String := "V1FS"

/-- The headers of a call. -/
structure Credentials where
  authorization : String
  appName : String
deriving DecidableEq

namespace Credentials

/-- A character that a header may hold. -/
def isHeaderChar (c : Char) : Bool :=
  c == '\t' || (32 ≤ c.toNat && c.toNat != 127)

/-- A text that a header may hold. -/
def isHeaderText (s : String) : Bool :=
  s.toList.all isHeaderChar

/-- The headers for a key. A blank key is none. -/
def new (key : String) (kind : TokenKind) (appName : String) : Outcome Credentials :=
  let key := Text.trim key
  if key.isEmpty then .error .missingAuth
  else
    let authorization := kind.scheme ++ " " ++ key
    if !isHeaderText authorization then
      .error (.configuration "credential contains invalid characters")
    else if !isHeaderText appName then
      .error (.configuration ("invalid application name '" ++ appName ++ "'"))
    else .ok { authorization, appName }

/-- One byte of a header as it is shown. -/
def shownByte (b : UInt8) : List Char :=
  if b = 34 then ['\\', '"']
  else if b = 9 ∨ (32 ≤ b ∧ b < 127) then [Char.ofNat b.toNat]
  else '\\' :: 'x' :: Nat.toDigits 16 b.toNat

/-- A header as it is shown. -/
def shownHeader (s : String) : String :=
  String.ofList ('"' :: ((Text.Utf8.encode s).flatMap shownByte ++ ['"']))

/-- What is shown of the headers: not the key. -/
def describe (credentials : Credentials) : String :=
  "CallCredentials \x7b authorization: \"<redacted>\", app_name: " ++
    shownHeader credentials.appName ++ " \x7d"

end Credentials

end MalwareScan
