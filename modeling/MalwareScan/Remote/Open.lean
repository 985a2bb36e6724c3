import MalwareScan.Remote.BucketObject
import MalwareScan.Remote.HttpObject
import MalwareScan.Remote.Locator

/-!
# Opening a location

A location is opened through the store that its locator names. The object's name is what may be
shown of the location.
-/

namespace MalwareScan

/-- The servers behind remote objects: their answers to requests for headers and for ranges. -/
structure Network where
  head : ObjectLocator → Exchange
  get : ObjectLocator → (first last : UInt64) → Exchange

/-- The store of an object. -/
def ObjectLocator.store (locator : ObjectLocator) (network : Network) : ObjectStore :=
  match locator with
  | .s3 bucket key =>
    (BucketObject.mk bucket key).store (network.head locator) (network.get locator)
  | .url u => (HttpObject.mk u).store (network.head locator) (network.get locator)

/-- Opens the object at a location. -/
def RemoteObject.openLocation (network : Network) (location : String) (digest : Bool) :
    Outcome (RemoteObject × ObjectStore) := do
  let locator ← ObjectLocator.parse location
  let store := locator.store network
  let object ← RemoteObject.open locator.displayName store digest
  .ok (object, store)

/-- A network that nothing can be reached through. -/
def Network.unreachable (reason : String) : Network where
  head _ := .error reason
  get _ _ _ := .error reason

end MalwareScan
