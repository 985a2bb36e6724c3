import MalwareScan.Error
import MalwareScan.Url.Parse

/-!
# Where remote objects live

A remote object is named by an `s3` URI, which states a bucket and a key, or by an `https` URL,
whose query and fragment carry the right to read it. What is shown of a location never contains
these two.
-/

namespace MalwareScan

/-- Where a remote object lives. -/
inductive ObjectLocator where
  | s3 (bucket key : String)
  | url (url : Url)
deriving DecidableEq

namespace ObjectLocator

/-- The characters of a path without its leading slashes. -/
def keyOf (path : String) : String :=
  String.ofList (path.toList.dropWhile (· == '/'))

/-- The object that a URL names, if it names one. -/
def ofUrl? (u : Url) : Option ObjectLocator :=
  match u.scheme with
  | "s3" =>
    let bucket := match u.host with
      | some host => host.text
      | none => ""
    let key := keyOf (Url.pathText u.path)
    if bucket.isEmpty ∨ key.isEmpty then none else some (.s3 bucket key)
  | "https" => some (.url u)
  | _ => none

/-- The object at a location. -/
def parse (location : String) : Outcome ObjectLocator :=
  match Url.parse location with
  | .ok u =>
    match ofUrl? u with
    | some locator => .ok locator
    | none => .error (.fileNotFound location)
  | .error _ => .error (.fileNotFound location)

/-- What is shown of an object's location. -/
def displayName : ObjectLocator → String
  | s3 bucket key => "s3://" ++ bucket ++ "/" ++ key
  | url u => u.redacted.text

/-- The location as far as its first question mark or number sign. -/
def cutSecrets (location : String) : String :=
  String.ofList (location.toList.takeWhile fun c => c != '?' && c != '#')

/-- What is shown of any location. -/
def redact (location : String) : String :=
  match parse location with
  | .ok locator => locator.displayName
  | .error _ => cutSecrets location

/-- The location looks like one of a remote object rather than a path. -/
def isRemote (location : String) : Bool :=
  let lower := String.ofList (location.toList.map Char.toLower)
  lower.startsWith "s3://" || lower.startsWith "https://"

end ObjectLocator

end MalwareScan
