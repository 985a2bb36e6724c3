import MalwareScan.Proxy.Endpoint

/-!
# Choosing a proxy

Settings may name a proxy for secure and one for plain connections, and hosts to which neither is
used. A blank proxy counts as none, and the secure one is preferred.
-/

namespace MalwareScan.Proxy

/-- The variables of a process. -/
abbrev Environment := String → Option String

/-- Which proxies there are, and for which hosts they are not used. -/
structure Selection where
  http : Option String := none
  https : Option String := none
  exceptions : List String := []
  user : Option String := none
  password : Option String := none
deriving DecidableEq

/-- The entries of a list of hosts, without blanks around them and without empty ones. -/
def exceptionsOf (list : Option String) : List String :=
  let parts := ((list.getD "").toList.splitOn ',').map Text.trimChars
  (parts.filter fun part => !part.isEmpty).map String.ofList

/-- An entry covers a host: it is a star, the host itself, or a star and the end of the host from
one of its dots. -/
def covers (entry host : String) : Bool :=
  entry == "*" || entry == host ||
    (match entry.toList with
      | '*' :: '.' :: rest => ('.' :: rest).isSuffixOf host.toList
      | _ => false)

namespace Selection

/-- The selection with the given settings. -/
def new (http https exceptions user password : Option String) : Selection :=
  { http := http.filter fun s => !Text.isBlankText s
    https := https.filter fun s => !Text.isBlankText s
    exceptions := exceptionsOf exceptions, user, password }

/-- The selection that the environment states. -/
def ofEnvironment (env : Environment) : Selection :=
  new (env "HTTP_PROXY") (env "HTTPS_PROXY") (env "NO_PROXY") (env "PROXY_USER") (env "PROXY_PASS")

/-- No proxy is used for the host. -/
def bypasses (selection : Selection) (host : String) : Bool :=
  selection.exceptions.any fun entry => covers entry host

/-- The proxy to use for a host, as the settings state it. -/
def urlFor (selection : Selection) (host : String) : Option String :=
  if selection.bypasses host then none
  else
    match selection.https with
    | some url => some url
    | none => selection.http

/-- The login, if there are a user that is not blank and a password that is not empty. -/
def login (selection : Selection) : Option Login :=
  match selection.user, selection.password with
  | some user, some password =>
    if Text.isBlankText user ∨ password.isEmpty then none else some ⟨user, password⟩
  | _, _ => none

/-- The proxy to use for a host. A text that states no proxy is ignored. -/
def endpointFor (selection : Selection) (host : String) : Option Endpoint :=
  (selection.urlFor host).bind fun url => (Endpoint.parse url selection.login).toOption

end Selection

end MalwareScan.Proxy
