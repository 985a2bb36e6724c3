import MalwareScan.Url.Host

/-!
# URLs

A URL in its normal form: `Url.parse` reads any text by the rules of the URL standard, and
`Url.text` writes the normal form. The path of a URL with a host is a list of segments.
-/

namespace MalwareScan

open Url (Host UrlFault EncodeSet percentEncode)

/-- What stands behind the scheme and the host of a URL: segments, each behind a slash, or, for a
URL without a host that does not begin with a slash, a text. -/
inductive UrlPath where
  | segments (list : List String)
  | plain (text : String)
deriving DecidableEq

/-- A URL in normal form. The port is missing if it is the scheme's own. -/
structure Url where
  scheme : String
  username : String := ""
  password : Option String := none
  host : Option Host := none
  hasAuthority : Bool := false
  port : Option UInt16 := none
  path : UrlPath
  query : Option String := none
  fragment : Option String := none
deriving DecidableEq

namespace Url

/-- The kinds of schemes, which differ in how the rest is read. -/
inductive SchemeKind where
  | special
  | file
  | other
deriving DecidableEq

/-- The kind of a scheme. -/
def schemeKind (scheme : String) : SchemeKind :=
  if ["http", "https", "ws", "wss", "ftp"].contains scheme then .special
  else if scheme = "file" then .file
  else .other

/-- The port that a scheme implies. -/
def defaultPort? (scheme : String) : Option UInt16 :=
  match scheme with
  | "http" | "ws" => some 80
  | "https" | "wss" => some 443
  | "ftp" => some 21
  | _ => none

/-- The text of a path. -/
def pathText : UrlPath → String
  | .segments list => String.join (list.map ("/" ++ ·))
  | .plain text => text

/-- The user name and the password, in front of the host. -/
def userinfoText (url : Url) : String :=
  if url.username.isEmpty ∧ url.password.isNone then ""
  else
    let password := match url.password with
      | some password => ":" ++ password
      | none => ""
    url.username ++ password ++ "@"

/-- The normal form of a URL. -/
def text (url : Url) : String :=
  let authority :=
    if url.hasAuthority then
      let host := match url.host with
        | some host => host.text
        | none => ""
      let port := match url.port with
        | some port => ":" ++ toString port
        | none => ""
      "//" ++ url.userinfoText ++ host ++ port
    else if (pathText url.path).startsWith "//" then "/."
    else ""
  let query := match url.query with
    | some query => "?" ++ query
    | none => ""
  let fragment := match url.fragment with
    | some fragment => "#" ++ fragment
    | none => ""
  url.scheme ++ ":" ++ authority ++ pathText url.path ++ query ++ fragment

/-- The URL without its query and its fragment. -/
def redacted (url : Url) : Url :=
  { url with query := none, fragment := none }

end Url

end MalwareScan
