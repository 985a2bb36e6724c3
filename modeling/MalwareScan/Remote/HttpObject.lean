import MalwareScan.Content.Remote
import MalwareScan.Remote.Response
import MalwareScan.Url.Basic

/-!
# Objects behind URLs

An object behind a URL is described by the answer to a request for its headers, and read by requests
for ranges. A store may ignore the range and send the whole object; the range is then cut out here.
-/

namespace MalwareScan

/-- An object behind a URL, whose query is never shown. -/
structure HttpObject where
  url : Url

namespace HttpObject

/-- What is shown of the object's URL. -/
def shownUrl (object : HttpObject) : String :=
  object.url.redacted.text

/-- A failed read. -/
def readError (text : String) : Error :=
  .io ⟨.other, text⟩

/-- The description that the answer to a request for the headers gives. -/
def info (object : HttpObject) (exchange : Exchange) : Outcome ObjectInfo :=
  let location := object.shownUrl
  match exchange with
  | .error reason => .error (.unexpected ("HEAD " ++ location ++ " failed: " ++ reason))
  | .ok answer =>
    if answer.status = 401 ∨ answer.status = 403 then .error (.noPermission location)
    else if answer.status = 404 then .error (.fileNotFound location)
    else if answer.status ≠ 200 then
      .error (.unexpected
        ("HEAD " ++ location ++ " returned " ++ Response.statusText answer.status))
    else
      match answer.contentLength? with
      | some size => .ok { size }
      | none => .error (.unexpected ("HEAD " ++ location ++ " has no Content-Length"))

/-- The bytes from `first` to `last` of a whole object, as far as it reaches. -/
def cutRange (body : Bytes) (first last : UInt64) : Bytes :=
  body.slice first.toNat (min (last.toNat + 1) body.length - first.toNat)

/-- The bytes that the answer to a request for a range gives. -/
def range (object : HttpObject) (first last : UInt64) (exchange : Exchange) : Outcome Bytes :=
  let location := object.shownUrl
  match exchange with
  | .error reason => .error (readError ("GET " ++ location ++ " failed: " ++ reason))
  | .ok answer =>
    if answer.status ≠ 206 ∧ answer.status ≠ 200 then
      .error (readError ("Expected HTTP 206 Partial Content from " ++ location ++ ", got " ++
        Response.statusText answer.status))
    else
      match answer.body with
      | .error reason => .error (readError ("Reading " ++ location ++ " failed: " ++ reason))
      | .ok body => .ok (if answer.status = 200 then cutRange body first last else body)

/-- The object as a store, given the answers of its server. -/
def store (object : HttpObject) (head : Exchange) (get : (first last : UInt64) → Exchange) :
    ObjectStore where
  info := object.info head
  fetch first last := object.range first last (get first last)

end HttpObject

end MalwareScan
