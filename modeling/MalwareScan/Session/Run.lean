import MalwareScan.Session.Basic

/-!
# Running a session

A session runs in surroundings that read content, make room, carry messages and keep the time.
`Session.settle?` lets it act until it waits for the scanner or is over; `Session.drive?` runs it
over the messages of a whole call. A session may wait for room as long as its time is not up, so
both are told how many turns to allow it. `Session.budget` is enough if time passes in each failed
wait.
-/

namespace MalwareScan

open Wire (ClientMessage ServerMessage Status)

/-- The surroundings of a session, with a state of their own. A failed wait says how much time has
passed since the start of the session. -/
structure Surroundings (σ : Type) where
  read : σ → (offset : UInt64) → (capacity : Nat) → Read × σ
  waitForRoom : σ → Option Duration × σ
  send : σ → ClientMessage → Bool × σ
  signal : σ → Session.Signal → σ

namespace Session

/-- What the surroundings answer to a request of the session. For a message of the scanner there is
no answer. -/
def Request.serve {σ : Type} (around : Surroundings σ) (world : σ) : Request → Option (Event × σ)
  | .message | .nothing => none
  | .read offset capacity =>
    let (result, world) := around.read world offset capacity
    some (.read result, world)
  | .room =>
    match around.waitForRoom world with
    | (none, world) => some (.room, world)
    | (some elapsed, world) => some (.noRoom elapsed, world)
  | .send m =>
    let (sent, world) := around.send world m
    some (if sent then .sent else .notSent, world)

/-- One event of a session in its surroundings. -/
def act {σ : Type} (terms : Terms) (around : Surroundings σ) (s : Session) (world : σ)
    (event : Event) : Session × σ :=
  let (s, signals) := s.step terms event
  (s, signals.foldl around.signal world)

/-- The session when it waits for the scanner or is over, if it needs at most so many turns for
that. -/
def settle? {σ : Type} (terms : Terms) (around : Surroundings σ) (turns : Nat) (s : Session)
    (world : σ) : Option (Session × σ) :=
  match (s.request terms).serve around world with
  | none => some (s, world)
  | some (event, world) =>
    match turns with
    | 0 => none
    | turns + 1 =>
      let (s, world) := s.act terms around world event
      settle? terms around turns s world

/-- One event from the scanner, and all that follows from it. `allowed` says how many turns a
session may take until it is at rest. -/
def receive? {σ : Type} (terms : Terms) (around : Surroundings σ) (allowed : Session → Nat)
    (s : Session) (world : σ) (event : Event) : Option (Session × σ) :=
  let (s, world) := s.act terms around world event
  s.settle? terms around (allowed s) world

/-- The session over a whole call: the scanner's messages up to the end of the stream. -/
def drive? {σ : Type} (terms : Terms) (around : Surroundings σ) (allowed : Session → Nat)
    (s : Session) (world : σ) : List (Except Status ServerMessage) → Option (Session × σ)
  | [] => if s.isDone then some (s, world) else s.receive? terms around allowed world .closed
  | item :: items =>
    if s.isDone then some (s, world)
    else
      (s.receive? terms around allowed world (.ofItem item)).bind fun (s, world) =>
        drive? terms around allowed s world items

/-- The number of ranges that a task still has to serve. -/
def pending : Task → Nat
  | .idle => 0
  | .read _ later | .room _ _ later | .send _ _ later => later.length + 1

/-- As many turns as a session can take before it is at rest, if each failed wait takes at least
`readyInterval`. -/
def budget (terms : Terms) (s : Session) : Nat :=
  3 * pending s.task + terms.timeout.nanos / readyInterval.nanos + 2

/-- `receive?` in surroundings in which time passes in each failed wait. -/
def receive {σ : Type} (terms : Terms) (around : Surroundings σ) (s : Session) (world : σ)
    (event : Event) : Session × σ :=
  (s.receive? terms around (budget terms) world event).getD (s, world)

/-- `drive?` in surroundings in which time passes in each failed wait. -/
def drive {σ : Type} (terms : Terms) (around : Surroundings σ) (s : Session) (world : σ)
    (items : List (Except Status ServerMessage)) : Session × σ :=
  (s.drive? terms around (budget terms) world items).getD (s, world)

end Session

end MalwareScan
