import MalwareScan.Files.Walk
import MalwareScan.Remote.Locator

/-!
# Targets

A target is one thing to scan: a local file or a remote object. What a user names is expanded: a
directory stands for all regular files below it, in the order of their path components. Links in the
directory are neither scanned nor followed.
-/

namespace MalwareScan

open Files (FileSystem)

/-- One thing to scan. -/
inductive Target where
  | file (path : String)
  | remote (location : String)
deriving DecidableEq, Repr

namespace Target

/-- The name of a target in results. That of a remote object has no query. -/
def displayName : Target → String
  | file path => path
  | remote location => ObjectLocator.redact location

/-- The error for a path that leads nowhere. -/
def missing (path : String) (fault : IoFault) : Error :=
  match fault.kind with
  | .notFound => .fileNotFound path
  | .permissionDenied => .noPermission path
  | _ => .io fault

/-- The targets that the user's text stands for. -/
def expand (fs : FileSystem) (text : String) : Outcome (List Target) :=
  if ObjectLocator.isRemote text then .ok [.remote text]
  else
    match fs.find text with
    | .error fault => .error (missing text fault.toIoFault)
    | .ok node =>
      if node.isDirectory then
        match fs.filesBelow text node with
        | .ok files => .ok (files.map .file)
        | .error fault => .error (.io fault.toIoFault)
      else .ok [.file text]

end Target

end MalwareScan
