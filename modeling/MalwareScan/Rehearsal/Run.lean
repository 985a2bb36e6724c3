import MalwareScan.Rehearsal.World

/-!
# Running a rehearsal

One actor moves at a time, until it has to wait. Whoever can go on because of its steps is put
into a queue and moves later, in turn; the user comes last. When everybody waits, the clock goes
on to the next timer: then the user comes first, and the others in the order in which they set
their timers.

`rehearse` is the whole of it: a client, the plans for its calls and the user's actions give the
user's answers and what the scanners noticed.
-/

namespace MalwareScan.Rehearsal

namespace World

/-! ## The user -/

/-- How long the user waits for a scan to get under way, in milliseconds. -/
def startPause : Nat := 10

/-- How long the user waits after each action, in milliseconds. -/
def actionPause : Nat := 1

/-- The world in which the user waits for a given time. -/
def pause (w : World) (millis : Nat) (doing : Nat → Doing) : World :=
  let time := w.now + millis
  { w with doing := doing time }.addTimer time .user

/-- The world in which the user has an answer. -/
def settle (w : World) (answer : Answer) : World :=
  w.pause actionPause fun time => .settling time answer

/-- The content that stands for one that could not be opened; nobody reads it. -/
def noContent : Content :=
  { length := 0, name := "", digest := fun _ => "", read := fun _ _ _ => Read.of [] }

/-- A scan that is about to start. Without content it is over already. -/
def newScan (content : Outcome Content) (options : ScanOptions) (background : Bool) : Scan :=
  match content with
  | .ok content => { content, options, background }
  | .error e => { content := noContent, options, background, stage := .finished (.error e) }

/-- The world with one more scan. -/
def addScan (w : World) (scan : Scan) : World :=
  { w with scans := w.scans.push scan }

/-- The number of a scan that was started in the background. -/
def started (w : World) (index : Nat) : Nat :=
  w.background.getD index w.scans.size

/-- The world in which the user begins an action. -/
def begin (w : World) : Action → World
  | .scan content options =>
    { w.addScan (newScan content options false) with doing := .scanning w.scans.size }
  | .start content options =>
    let next := w.addScan (newScan content options true)
    let next := { next with background := w.background.push w.scans.size }
    next.pause startPause fun time => .waiting time (.index w.background.size)
  | .join index => { w with doing := .joining (w.started index) }
  | .kill index =>
    let i := w.started index
    let w := match w.scans[i]? with
      | some scan => w.setScan i { scan with dropped := true }
      | none => w
    w.settle .nothing
  | .sleep millis => w.pause millis fun time => .waiting time .nothing
  | .close =>
    { w with doing := .closing .start w.now }.addTimer (w.now + closeGrace.toMillis) .user
  | .timeout => w.settle (.millis w.timeout.toMillis)

/-- The outcome of a scan that is over. -/
def outcome? (w : World) (i : Nat) : Option (Outcome String) :=
  (w.scans[i]?).bind fun scan => scan.stage.outcome?

/-- One step of closing the client. -/
def stepClosing (w : World) (stage : CloseStage) (since : Nat) : Option World :=
  let graceOver := since + closeGrace.toMillis ≤ w.now
  if stage.isFinished then some (w.settle (.closed graceOver))
  else
    let event : CloseEvent :=
      if stage = .waiting ∧ ¬ w.client.scans.isNotified ∧ graceOver then .graceOver else .next
    let (client, next) := stage.step w.client event
    if stage = .waiting ∧ next = .waiting then none
    else some { w with client, doing := .closing next since }

/-- One step of the user. -/
def stepUser (w : World) : Option World :=
  match w.doing with
  | .nothing =>
    match w.actions with
    | [] => none
    | action :: actions => some ({ w with actions }.begin action)
  | .scanning i =>
    match w.outcome? i with
    | some outcome => some (w.settle (.outcome outcome))
    | none => w.stepScan i
  | .joining i => (w.outcome? i).map fun outcome => w.settle (.outcome outcome)
  | .waiting time answer => if w.now < time then none else some (w.settle answer)
  | .closing stage since => w.stepClosing stage since
  | .settling time answer =>
    if w.now < time then none
    else
      some { w with doing := .nothing, answers := w.answers ++ [(answer, w.client.scans.count)] }

/-! ## Taking turns -/

/-- One step of an actor. -/
def step (w : World) : Actor → Option World
  | .user => w.stepUser
  | .scan i => w.stepScan i
  | .scanner k => w.stepScanner k
  | .session k => w.stepSession k

/-- The actor has a step. -/
def canMove (w : World) (actor : Actor) : Bool :=
  (w.step actor).isSome

/-- All actors but the user. -/
def actors (w : World) : List Actor :=
  ((List.range w.scans.size).filter fun i => (w.scans[i]?).any (·.background)).map .scan ++
    (List.range w.calls.size).flatMap fun k => [.scanner k, .session k]

/-- The world in which everybody who can go on is in the queue. -/
def wake (w : World) : World :=
  let woken := w.actors.filter fun actor =>
    w.current ≠ some actor ∧ ¬ w.queue.contains actor ∧ w.canMove actor
  { w with queue := w.queue ++ woken }

/-- The world at the time of the next timers. -/
def advance (w : World) (time : Nat) : World :=
  let due := (w.timers.filter fun timer => timer.1 ≤ time).map (·.2)
  let w := { w with now := time, timers := w.timers.filter fun timer => time < timer.1 }
  { w with
    queue := due.filter fun actor => actor ≠ .user ∧ w.canMove actor
    current := if w.canMove .user then some .user else none }

/-- What happens next, until the user has nothing more to do. -/
def next (w : World) : Option World :=
  match w.current with
  | some actor =>
    match w.step actor with
    | some w => some w.wake
    | none => some { w with current := none }
  | none =>
    match w.queue with
    | actor :: queue => some { w with queue, current := some actor }
    | [] =>
      if w.canMove .user then some { w with current := some .user }
      else
        match w.doing, (w.timers.map (·.1)).min? with
        | .nothing, _ => none
        | _, none => none
        | _, some time => some (w.advance time)

/-- The world after at most `fuel` events. -/
def run : (fuel : Nat) → World → World
  | 0, w => w
  | fuel + 1, w =>
    match w.next with
    | some w => run fuel w
    | none => w

end World

/-- The most events of a rehearsal. -/
def maxEvents : Nat := 10000000

/-- What comes out of a rehearsal: each answer with the number of scans that were active after it,
the timeouts with which calls were opened, and what the scanner of each call noticed. -/
structure Report where
  answers : List (Answer × Nat)
  deadlines : List Duration
  notes : List (List Note)

/-- A rehearsal of a client with the given timeout. -/
def rehearse (timeout : Duration) (plans : List Plan) (actions : List Action) : Report :=
  let w := World.run maxEvents { timeout := effectiveTimeout timeout, plans, actions }
  { answers := w.answers
    deadlines := w.deadlines
    notes := w.calls.toList.map fun call => call.scanner.notes.reverse }

end MalwareScan.Rehearsal
