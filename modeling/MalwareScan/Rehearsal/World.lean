import MalwareScan.Client.Calls
import MalwareScan.Client.Settings
import MalwareScan.Rehearsal.Call
import MalwareScan.Session.Opening

/-!
# The world of a rehearsal

The world holds a client, its scans, the calls they opened, the scanners at the far side, a user and
a clock that counts milliseconds. Everything moves in small steps; whoever has to wait has no step.
-/

namespace MalwareScan.Rehearsal

/-- A scan: its content and options, where it stands, the plan and the number of its call, and when
the delay of the call ends. A scan in the background may be dropped. -/
structure Scan where
  content : Content
  options : ScanOptions
  stage : ScanStage := .start
  background : Bool := false
  dropped : Bool := false
  plan : Plan := {}
  due : Nat := 0
  call : Nat := 0

/-- Who moves: the user, a scan in the background, and the two sides of a call. -/
inductive Actor where
  | user
  | scan (index : Nat)
  | scanner (call : Nat)
  | session (call : Nat)
deriving DecidableEq

/-- What the user is doing. -/
inductive Doing where
  | nothing
  | scanning (scan : Nat)
  | joining (scan : Nat)
  | waiting (time : Nat) (answer : Answer)
  | closing (stage : CloseStage) (since : Nat)
  | settling (time : Nat) (answer : Answer)

/-- A rehearsal under way. `background` holds the numbers of the scans that were started, and
`answers` each answer with the number of scans that were active after it. -/
structure World where
  timeout : Duration
  plans : List Plan
  actions : List Action
  now : Nat := 0
  client : ClientState := {}
  scans : Array Scan := #[]
  background : Array Nat := #[]
  calls : Array Call := #[]
  doing : Doing := .nothing
  answers : List (Answer × Nat) := []
  deadlines : List Duration := []
  timers : List (Nat × Actor) := []
  queue : List Actor := []
  current : Option Actor := none

/-- Who moves a scan: the user waits for the scans that are not in the background. -/
def Scan.actor (scan : Scan) (i : Nat) : Actor :=
  if scan.background then .scan i else .user

namespace World

/-- The world in which `actor` is looked at again at a later time. -/
def addTimer (w : World) (time : Nat) (actor : Actor) : World :=
  { w with timers := w.timers ++ [(time, actor)] }

/-- The world with another state of a scan. -/
def setScan (w : World) (i : Nat) (scan : Scan) : World :=
  { w with scans := w.scans.setIfInBounds i scan }

/-- The world with another state of a call. -/
def setCall (w : World) (k : Nat) (call : Call) : World :=
  { w with calls := w.calls.setIfInBounds k call }

/-! ## Scans -/

/-- The plan of the next call. The last plan is used for all calls after it. -/
def nextPlan (w : World) : Plan :=
  (w.plans[w.client.opens]?).getD (w.plans.getLast?.getD {})

/-- The world after an event of a scan. -/
def moveScan (w : World) (i : Nat) (scan : Scan) (event : ScanEvent) : World :=
  let (client, stage) := scan.stage.step scan.options scan.content.length w.client event
  { w with client }.setScan i { scan with stage }

/-- The world in which a scan begins to open its call. -/
def beginCall (w : World) (i : Nat) (scan : Scan) : World :=
  let plan := w.nextPlan
  let due := w.now + plan.delay
  let w := { w with deadlines := w.deadlines ++ [w.timeout] }
  let w := if plan.delay = 0 then w else w.addTimer due (scan.actor i)
  w.moveScan i { scan with plan, due } .next

/-- The world with the call that a scan has opened. -/
def openCall (w : World) (i : Nat) (scan : Scan) : World :=
  let channel := Channel.new scan.plan.capacity
  let channel := if scan.plan.refuses then channel.stopReceiving else channel
  let call : Call := {
    line := .opened channel (openingMessage scan.content scan.options)
    scanner := { cues := scan.plan.script }
    scan := i
    started := w.now }
  { w with calls := w.calls.push call }.moveScan i { scan with call := w.calls.size } .opened

/-- One step of a scan with an open call: the session is over, or the client shuts down. -/
def watchCall (w : World) (i : Nat) (scan : Scan) : Option World := do
  let call ← w.calls[scan.call]?
  if call.line.session.isDone ∧ ¬ call.line.listening then
    some (w.moveScan i scan (.completed call.line.session.completion))
  else if w.client.shutdown then
    some ((w.setCall scan.call { call with unwanted := true }).moveScan i scan .next)
  else none

/-- One step of a scan. -/
def stepScan (w : World) (i : Nat) : Option World := do
  let scan ← w.scans[i]?
  match scan.stage with
  | .finished _ => none
  | .leaving _ | .notifying _ => some (w.moveScan i scan .next)
  | stage =>
    if scan.dropped then some (w.moveScan i scan .dropped)
    else
      match stage with
      | .counted => some (w.beginCall i scan)
      | .opening =>
        if w.now < scan.due then none
        else
          match scan.plan.failure with
          | some e => some (w.moveScan i scan (.notOpened e))
          | none => some (w.openCall i scan)
      | .scanning => w.watchCall i scan
      | _ => some (w.moveScan i scan .next)

/-! ## Sessions -/

/-- One step of the client's side of a call. -/
def stepSession (w : World) (k : Nat) : Option World := do
  let call ← w.calls[k]?
  let scan ← w.scans[call.scan]?
  let terms : Session.Terms := { length := scan.content.length, timeout := w.timeout }
  let move (waited : Option Duration) : Option World :=
    (call.line.step terms scan.content waited).map fun line =>
      w.setCall k { call with line, ends? := none }
  if ¬ call.line.listening then none
  else if call.unwanted ∨ call.line.session.isDone then
    some (w.setCall k { call with line := call.line.hangUp })
  else if call.line.awaitsRoom terms then
    match call.ends? with
    | none =>
      let time := w.now + readyInterval.toMillis
      some ((w.setCall k { call with ends? := some time }).addTimer time (.session k))
    | some time => if w.now < time then none else move (some (.ofMillis (w.now - call.started)))
  else move none

/-! ## Scanners -/

/-- One step of the scanner's side of a call. -/
def stepScanner (w : World) (k : Nat) : Option World := do
  let call ← w.calls[k]?
  if call.scanner.finished then none
  else
    match call.scanner.cues, call.scanner.wakes? with
    | .sleep millis :: _, none =>
      let time := w.now + millis
      let scanner := { call.scanner with wakes? := some time }
      some ((w.setCall k { call with scanner }).addTimer time (.scanner k))
    | .sleep _ :: _, some time =>
      if w.now < time then none else call.perform.map (w.setCall k)
    | _, _ => call.perform.map (w.setCall k)

end World

end MalwareScan.Rehearsal
