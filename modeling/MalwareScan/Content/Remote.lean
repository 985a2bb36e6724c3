import MalwareScan.Content.Basic

/-!
# Remote objects

An object behind a network is described once, when it is opened, and then read by ranged fetches.
A store may answer a fetch with any bytes or an error: fewer bytes than were asked for are an
error, and bytes beyond those are dropped.
-/

namespace MalwareScan

/-- What a store says about an object. -/
structure ObjectInfo where
  size : UInt64
  sha1 : Option String := none
  sha256 : Option String := none
deriving DecidableEq

/-- Access to one object: its description, and the bytes from a first to a last position, both
included. -/
structure ObjectStore where
  info : Outcome ObjectInfo
  fetch : (first last : UInt64) → Outcome Bytes

/-- An open object. -/
structure RemoteObject where
  name : String
  length : UInt64
  digests : Digests

namespace RemoteObject

/-- Opens an object over a store. Digests are those that the store reports. -/
def «open» (name : String) (store : ObjectStore) (digest : Bool) : Outcome RemoteObject := do
  let info ← store.info
  .ok { name, length := info.size
        digests := if digest then Digests.ofHex info.sha1 info.sha256 else Digests.none }

/-- The positions that a read fetches, if it fetches at all. -/
def range? (object : RemoteObject) (offset : UInt64) (capacity : Nat) : Option (UInt64 × UInt64) :=
  let want := readableLength object.length offset capacity
  if want = 0 then none else some (offset, offset + UInt64.ofNat want - 1)

/-- The error for an answer that is too short. -/
def shortError (object : RemoteObject) (got want : Nat) (offset : UInt64) : Error :=
  .io ⟨.unexpectedEof, object.name ++ " returned " ++ toString got ++ " of " ++ toString want ++
    " bytes at offset " ++ toString offset⟩

/-- What a read makes of the store's answer to its fetch. -/
def accept (object : RemoteObject) (offset : UInt64) (capacity : Nat) (answer : Outcome Bytes) :
    Read :=
  let want := readableLength object.length offset capacity
  match answer with
  | .error e => .failed e
  | .ok bytes =>
    if bytes.length < want then .failed (object.shortError bytes.length want offset)
    else .of (bytes.take want)

/-- A ranged read. -/
def read (object : RemoteObject) (store : ObjectStore) (offset : UInt64) (capacity : Nat) : Read :=
  match object.range? offset capacity with
  | none => .of []
  | some (first, last) => object.accept offset capacity (store.fetch first last)

/-- An open object as content. -/
def content (object : RemoteObject) (store : ObjectStore) : Content where
  length := object.length
  name := object.name
  digest := object.digests.tagged
  read _ := object.read store

end RemoteObject

end MalwareScan
