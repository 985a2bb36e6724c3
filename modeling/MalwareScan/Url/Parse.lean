import MalwareScan.Url.Basic

/-!
# Reading URLs

`Url.parse` reads a text by the rules of the URL standard: controls and spaces around it are
dropped, and tabs and line ends everywhere. Each part of the text is cut off in turn, scheme,
user, host, port, path, query and fragment, and brought into its normal form.
-/

namespace MalwareScan.Url

/-- The text that is looked at: without controls and spaces at its ends, and without tabs and line
ends. -/
def visibleText (s : String) : List Char :=
  let isOuter (c : Char) : Bool := c.toNat ≤ 0x20
  let inner := ((s.toList.dropWhile isOuter).reverse.dropWhile isOuter).reverse
  inner.filter fun c => c != '\t' && c != '\n' && c != '\r'

/-- A letter of ASCII. -/
def isLetter (c : Char) : Bool := c.isAlpha

/-- A character of a scheme. -/
def isSchemeChar (c : Char) : Bool :=
  c.isAlphanum || c == '+' || c == '-' || c == '.'

/-- The scheme in lower case, and what follows its colon. -/
def splitScheme (cs : List Char) : Option (String × List Char) :=
  match cs with
  | [] => none
  | first :: _ =>
    if !isLetter first then none
    else
      match cs.dropWhile isSchemeChar with
      | ':' :: rest => some (String.ofList ((cs.takeWhile isSchemeChar).map Char.toLower), rest)
      | _ => none

/-- The characters that end the authority. -/
def endsAuthority (kind : SchemeKind) (c : Char) : Bool :=
  c == '/' || c == '?' || c == '#' || (kind != .other && c == '\\')

/-- The text before the last `@` of the authority, and the text after it. -/
def splitUser (kind : SchemeKind) (cs : List Char) : Option (List Char) × List Char :=
  let authority := cs.takeWhile fun c => !endsAuthority kind c
  let rest := cs.dropWhile fun c => !endsAuthority kind c
  if authority.contains '@' then
    let back := (authority.reverse.takeWhile (· != '@')).reverse
    (some (authority.take (authority.length - back.length - 1)), back ++ rest)
  else (none, cs)

/-- The user name and the password of the text before the `@`. An empty password is none. -/
def userOf (cs : List Char) : String × Option String :=
  let encode (part : List Char) : String := String.ofList (percentEncode EncodeSet.userinfo part)
  let name := cs.takeWhile (· != ':')
  match cs.dropWhile (· != ':') with
  | _ :: [] | [] => (encode name, none)
  | _ :: password => (encode name, some (encode password))

/-- The length of the host at the beginning of a text. A colon inside brackets does not end it. -/
def hostLength (kind : SchemeKind) : (inBrackets : Bool) → List Char → Nat
  | _, [] => 0
  | inBrackets, c :: cs =>
    if endsAuthority kind c || (c == ':' && !inBrackets) then 0
    else
      let inBrackets := if c == '[' then true else if c == ']' then false else inBrackets
      hostLength kind inBrackets cs + 1

/-- The port behind a colon: missing if there are no digits or if it is the scheme's own. -/
def readPort (scheme : String) (cs : List Char) :
    Except UrlFault (Option UInt16 × List Char) :=
  let digits := cs.takeWhile Char.isDigit
  let rest := cs.dropWhile Char.isDigit
  let value := Text.digitsValue digits
  let ends := match rest with
    | [] => true
    | c :: _ => c == '/' || c == '\\' || c == '?' || c == '#'
  if 65535 < value ∨ !ends then .error .invalidPort
  else
    let port := UInt16.ofNat value
    if digits.isEmpty ∨ defaultPort? scheme = some port then .ok (none, rest)
    else .ok (some port, rest)

/-- A letter and a colon or a bar. -/
def isDriveLetter : List Char → Bool
  | [a, b] => isLetter a && (b == ':' || b == '|')
  | _ => false

/-- A segment that stands for the one above. -/
def isDoubleDot (segment : List Char) : Bool :=
  ["..", "%2e%2e", ".%2e", "%2e."].contains (String.ofList (segment.map Char.toLower))

/-- A segment that stands for nothing. -/
def isSingleDot (segment : List Char) : Bool :=
  [".", "%2e"].contains (String.ofList (segment.map Char.toLower))

/-- The segments above, without the last one, unless it looks like a drive. -/
def popSegment : List (List Char) → List (List Char)
  | [] => []
  | last :: above => if isDriveLetter last then last :: above else above

/-- The segments of a path, last one first. `above` are those before the given ones. -/
def resolveDots (above : List (List Char)) : List (List Char) → List (List Char)
  | [] => above
  | [last] =>
    if isDoubleDot last then [] :: popSegment above
    else if isSingleDot last then [] :: above
    else last :: above
  | segment :: segments =>
    if isDoubleDot segment then resolveDots (popSegment above) segments
    else if isSingleDot segment then resolveDots above segments
    else resolveDots (segment :: above) segments

/-- The segments of the path that `cs` states behind its first slash. -/
def segmentsOf (kind : SchemeKind) (cs : List Char) : List String :=
  let isSlash (c : Char) : Bool := c == '/' || (kind != .other && c == '\\')
  let segments := (cs.splitOnP isSlash).map (percentEncode EncodeSet.path)
  ((resolveDots [] segments).reverse).map String.ofList

/-- The text up to the query or the fragment, and the rest. -/
def splitPath (cs : List Char) : List Char × List Char :=
  let inside (c : Char) : Bool := c != '?' && c != '#'
  (cs.takeWhile inside, cs.dropWhile inside)

/-- The path behind a host. A special scheme always has one. -/
def pathOf (kind : SchemeKind) (cs : List Char) : UrlPath :=
  match cs with
  | [] => if kind = .other then .segments [] else .segments [""]
  | c :: rest =>
    if c == '/' || (kind != .other && c == '\\') then .segments (segmentsOf kind rest)
    else .segments (segmentsOf kind cs)

/-- The query and the fragment of the rest of a text. -/
def tailOf (kind : SchemeKind) (cs : List Char) : Option String × Option String :=
  let fragmentOf : List Char → Option String
    | '#' :: rest => some (String.ofList (percentEncode EncodeSet.fragment rest))
    | _ => none
  match cs with
  | '?' :: rest =>
    let set := if kind = .special then EncodeSet.specialQuery else EncodeSet.query
    let query := rest.takeWhile (· != '#')
    (some (String.ofList (percentEncode set query)), fragmentOf (rest.dropWhile (· != '#')))
  | cs => (none, fragmentOf cs)

/-- The URL with the path, the query and the fragment that `cs` states behind a host. -/
def withPath (url : Url) (kind : SchemeKind) (cs : List Char) : Url :=
  let (path, rest) := splitPath cs
  let (query, fragment) := tailOf kind rest
  { url with path := pathOf kind path, query, fragment }

/-- A URL with an authority: `cs` is the text behind the two slashes. -/
def parseAuthority (scheme : String) (kind : SchemeKind) (cs : List Char) :
    Except UrlFault Url := do
  let (user, rest) := splitUser kind cs
  let endsHere : Bool := match rest with
    | [] => false
    | c :: _ => endsAuthority kind c
  if user = some [] ∧ endsHere = true then .error .emptyHost
  let (username, password) := userOf (user.getD [])
  let length := hostLength kind false rest
  let text := rest.take length
  let rest := rest.drop length
  if kind = .special ∧ text.isEmpty then .error .emptyHost
  let host ← if kind = .other then opaqueHost? text else specialHost? text
  let isEmpty : Bool := host == .name ""
  if isEmpty = true ∧ rest.head? = some ':' then .error .emptyHost
  let (port, rest) ← match rest with
    | ':' :: rest => readPort scheme rest
    | rest => .ok (none, rest)
  if isEmpty && (!username.isEmpty || password.isSome) then .error .emptyHost
  let url : Url :=
    { scheme, username, password, host := if isEmpty then none else some host
      hasAuthority := true, port, path := .segments [] }
  .ok (url.withPath kind rest)

/-- A URL of a file: it may name a host, which is empty for this machine. -/
def parseFile (cs : List Char) : Except UrlFault Url := do
  let isSlash (c : Char) : Bool := c == '/' || c == '\\'
  let localUrl : Url := { scheme := "file", hasAuthority := true, path := .segments [] }
  match cs with
  | a :: b :: rest =>
    if isSlash a && isSlash b then
      let text := rest.takeWhile fun c => !endsAuthority .file c
      if text.isEmpty ∨ isDriveLetter text then .ok (localUrl.withPath .file rest)
      else
        let host ← specialHost? text
        let host := if host = .name "localhost" then none else some host
        .ok ({ localUrl with host }.withPath .file (rest.drop text.length))
    else .ok (localUrl.withPath .file cs)
  | cs => .ok (localUrl.withPath .file cs)

/-- A URL without an authority. -/
def parsePlain (scheme : String) (cs : List Char) : Url :=
  let (path, rest) := splitPath cs
  let (query, fragment) := tailOf .other rest
  let path := match path with
    | '/' :: path => UrlPath.segments (segmentsOf .other path)
    | path => UrlPath.plain (String.ofList (percentEncode EncodeSet.controls path))
  { scheme, path, query, fragment }

/-- The URL that a text states. -/
def parse (s : String) : Except UrlFault Url :=
  match splitScheme (visibleText s) with
  | none => .error .relative
  | some (scheme, rest) =>
    match schemeKind scheme with
    | .special =>
      parseAuthority scheme .special (rest.dropWhile fun c => c == '/' || c == '\\')
    | .file => parseFile rest
    | .other =>
      match rest with
      | '/' :: '/' :: rest => parseAuthority scheme .other rest
      | rest => .ok (parsePlain scheme rest)

end MalwareScan.Url
