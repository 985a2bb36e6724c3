import MalwareScan.CommandLine.Program
import MalwareScan.Rehearsal.Run

/-!
# Scanning without a network

Where there is no way to the network every call fails, and so does every request to a store.
-/

namespace MalwareScan.Rehearsal

open CommandLine (Platform ScanReport)
open Files (FileSystem)
open Proxy (Environment)

/-- What a system says when there is no way to a peer. -/
def unreachable : String := "Network is unreachable (os error 101)"

/-- The plan of a call that cannot be made. -/
def offlinePlan (connection : Connection) : Plan :=
  { script := [.fail (connection.unreachable unreachable)] }

/-- The outcomes of scans, one after the other. -/
def scanOffline (connection : Connection) (scans : List (Outcome Content × ScanOptions)) :
    List (Outcome String) :=
  let actions := scans.map fun (content, options) => Action.scan content options
  let rehearsed := rehearse connection.timeout [offlinePlan connection] actions
  rehearsed.answers.filterMap fun (answer, _) =>
    match answer with
    | .outcome outcome => some outcome
    | _ => none

/-- A platform without a network. -/
def offlinePlatform (files : FileSystem) (environment : Environment) : Platform where
  files
  environment
  scan connection options digest target :=
    let content := target.content files (.unreachable unreachable) digest
    some {
      outcome := (scanOffline connection [(content, options)]).headD (.error .cancelled)
      elapsedMillis := 0 }

end MalwareScan.Rehearsal
