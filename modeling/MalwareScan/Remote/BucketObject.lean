import MalwareScan.Content.Remote
import MalwareScan.Encoding.Base64
import MalwareScan.Encoding.Hex
import MalwareScan.Remote.HttpObject

/-!
# Objects in buckets

An object in a bucket is described and read through the service's own protocol. The service may
state checksums, in base64; those of objects that were uploaded in parts are no digests of the
content and are passed over.
-/

namespace MalwareScan

/-- An object in a bucket. -/
structure BucketObject where
  bucket : String
  key : String

/-- The digest that a checksum states, in hexadecimal. -/
def checksumHex? (checksum : String) : Option String :=
  if checksum.toList.contains '-' then none
  else (Base64.decode? checksum).map Hex.encode

namespace BucketObject

/-- The location of an object. -/
def location (object : BucketObject) : String :=
  "s3://" ++ object.bucket ++ "/" ++ object.key

/-- The statuses of success. -/
def isSuccess (status : Nat) : Bool :=
  200 ≤ status && status ≤ 299

/-- An answer is refused if one of the headers that are read stands in it more than once. -/
def isRefused (answer : Response) : Bool :=
  ["content-length", "x-amz-checksum-sha1", "x-amz-checksum-sha256"].any answer.repeats

/-- The size that an answer states, unless it is refused: 0 if it states none or a negative one. A
length that is no number is absent. -/
def sizeOf? (answer : Response) : Option UInt64 :=
  if isRefused answer then none
  else
    match answer.header? "content-length" with
    | none => some 0
    | some value => (Text.int64? (Text.trim value)).map fun n => UInt64.ofNat n.toNat

/-- The description that the answer to a request for the headers gives. -/
def info (object : BucketObject) (exchange : Exchange) : Outcome ObjectInfo :=
  let failed (reason : String) : Outcome ObjectInfo :=
    .error (.unexpected (object.location ++ ": " ++ reason))
  match exchange with
  | .error reason => failed reason
  | .ok answer =>
    if answer.status = 401 ∨ answer.status = 403 then .error (.noPermission object.location)
    else if answer.status = 404 then .error (.fileNotFound object.location)
    else if !isSuccess answer.status then failed (Response.statusText answer.status)
    else
      match sizeOf? answer with
      | none => failed "malformed headers"
      | some size =>
        .ok { size
              sha1 := (answer.header? "x-amz-checksum-sha1").bind checksumHex?
              sha256 := (answer.header? "x-amz-checksum-sha256").bind checksumHex? }

/-- The bytes that the answer to a request for a range gives: all of its body. -/
def range (object : BucketObject) (first last : UInt64) (exchange : Exchange) : Outcome Bytes :=
  let failed (reason : String) : Outcome Bytes :=
    .error (HttpObject.readError ("Failed to read " ++ object.location ++ " bytes " ++
      toString first ++ "-" ++ toString last ++ ": " ++ reason))
  match exchange with
  | .error reason => failed reason
  | .ok answer =>
    if !isSuccess answer.status then failed (Response.statusText answer.status)
    else
      match answer.body with
      | .ok body => .ok body
      | .error reason =>
        .error (HttpObject.readError
          ("Failed to read " ++ object.location ++ " body: " ++ reason))

/-- The object as a store, given the answers of the service. -/
def store (object : BucketObject) (head : Exchange)
    (get : (first last : UInt64) → Exchange) : ObjectStore where
  info := object.info head
  fetch first last := object.range first last (get first last)

end BucketObject

end MalwareScan
