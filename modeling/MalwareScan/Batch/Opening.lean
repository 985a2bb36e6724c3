import MalwareScan.Batch.Target
import MalwareScan.Content.LocalFile
import MalwareScan.Remote.Open

/-!
# Opening targets

Before a target is scanned its content is opened: a local file, or an object behind the network.
-/

namespace MalwareScan

open Files (FileSystem)

/-- The content of a target. -/
def Target.content (fs : FileSystem) (network : Network) (digest : Bool) : Target → Outcome Content
  | .file path => (LocalFile.open fs .whole path digest).map (·.content fs .whole)
  | .remote location =>
    (RemoteObject.openLocation network location digest).map fun (object, store) =>
      object.content store

end MalwareScan
