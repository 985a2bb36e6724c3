import MalwareScan.Client.ActiveScans
import MalwareScan.Options

/-!
# Calls on a client

Scans and the call that closes a client share a little state: whether the client is closed, whether
running scans were told so, and how many there are. Each kind of call is a machine that touches this
state at most once in a step, so that calls may be interleaved step by step.

A scan is accepted only on an open client, with tags and a content within the limits. Closing a
client happens once; it waits for the scans in flight, but not longer than `closeGrace`.
-/

namespace MalwareScan

/-- How long closing waits for scans in flight. -/
def closeGrace : Duration := .ofSeconds 1

/-- What the calls on one client share. `opens` counts the calls to the scanner that were opened. -/
structure ClientState where
  closed : Bool := false
  shutdown : Bool := false
  scans : ActiveScans := {}
  opens : Nat := 0
deriving DecidableEq

/-! ## Scans -/

/-- A scan may go on: the client is open, and tags and content are within the limits. -/
def checkScan (closed : Bool) (options : ScanOptions) (length : UInt64) : Outcome Unit :=
  if closed then .error .cancelled
  else do
    options.validate
    if maxContentLength < length then .error (.contentTooLarge length maxContentLength)

/-- Where a scan stands. -/
inductive ScanStage where
  | start
  | accepted
  | counted
  | opening
  | scanning
  | leaving (outcome : Outcome String)
  | notifying (outcome : Outcome String)
  | finished (outcome : Outcome String)

/-- What moves a scan: its own next step, the answer of the scanner to its call, the outcome of its
session, or that nobody wants it any more. -/
inductive ScanEvent where
  | next
  | opened
  | notOpened (e : Error)
  | completed (outcome : Outcome String)
  | dropped

namespace ScanStage

/-- The outcome of a scan that is over. -/
def outcome? : ScanStage → Option (Outcome String)
  | finished outcome => some outcome
  | _ => none

/-- The scan is among the active ones. -/
def isActive : ScanStage → Bool
  | counted | opening | scanning | leaving _ => true
  | _ => false

/-- The outcome that stands for a scan that was dropped; nobody reads it. -/
def abandoned : Outcome String := .error .cancelled

/-- One step of a scan. An event that it does not wait for changes nothing. -/
def step (options : ScanOptions) (length : UInt64) (client : ClientState) :
    ScanStage → ScanEvent → ClientState × ScanStage
  | start, .next =>
    match checkScan client.closed options length with
    | .ok () => (client, accepted)
    | .error e => (client, finished (.error e))
  | accepted, .next => ({ client with scans := client.scans.enter }, counted)
  | counted, .next => ({ client with opens := client.opens + 1 }, opening)
  | opening, .opened => (client, scanning)
  | opening, .notOpened e => (client, leaving (.error e))
  | scanning, .completed outcome => (client, leaving outcome)
  | scanning, .next => (client, if client.shutdown then leaving (.error .cancelled) else scanning)
  | leaving outcome, .next =>
    let (scans, last) := client.scans.leave
    ({ client with scans }, if last then notifying outcome else finished outcome)
  | notifying outcome, .next => ({ client with scans := client.scans.notify }, finished outcome)
  | start, .dropped | accepted, .dropped => (client, finished abandoned)
  | counted, .dropped | opening, .dropped | scanning, .dropped => (client, leaving abandoned)
  | stage, _ => (client, stage)

end ScanStage

/-! ## Closing -/

/-- Where the closing of a client stands. A finished one says whether the scans ended in time. -/
inductive CloseStage where
  | start
  | announcing
  | registering
  | looking
  | waiting
  | finished (inTime : Bool)
deriving DecidableEq

/-- What moves the closing of a client: its own next step, or the end of the grace. -/
inductive CloseEvent where
  | next
  | graceOver
deriving DecidableEq

namespace CloseStage

/-- The closing is over. -/
def isFinished : CloseStage → Bool
  | finished _ => true
  | _ => false

/-- One step of closing. A client that is closed already is left alone. -/
def step (client : ClientState) : CloseStage → CloseEvent → ClientState × CloseStage
  | start, .next =>
    ({ client with closed := true }, if client.closed then finished true else announcing)
  | announcing, .next => ({ client with shutdown := true }, registering)
  | registering, .next => ({ client with scans := client.scans.register }, looking)
  | looking, .next =>
    if client.scans.isIdle then
      ({ client with scans := client.scans.unregister }, finished true)
    else (client, waiting)
  | waiting, .next => (client, if client.scans.isNotified then registering else waiting)
  | waiting, .graceOver => ({ client with scans := client.scans.unregister }, finished false)
  | stage, _ => (client, stage)

end CloseStage

end MalwareScan
