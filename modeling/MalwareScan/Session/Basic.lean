import MalwareScan.Content.Basic
import MalwareScan.Wire.ClientMessage
import MalwareScan.Wire.ServerMessage
import MalwareScan.Wire.Status

/-!
# Scan sessions

In a scan the scanner pulls: it asks for ranges of the content, the client answers each range with
one chunk, and the scanner ends the scan with its result. A session is the client's side of this
conversation. It is a machine: `Session.request` says what it is waiting for, and `Session.step` how
it goes on from an event, together with the signals it gives to the stream that carries its chunks.

A session has one outcome. It is delivered when the session is done, and from then on nothing
happens any more.
-/

namespace MalwareScan

open Wire (ByteRange ClientMessage Command ServerMessage Stage Status StatusCode)

/-- How long the session waits for room in the stream before it looks at the clock. -/
def readyInterval : Duration := .ofMillis 200

/-- Where a session stands: nothing was asked for yet, ranges are being served, or it is over. -/
inductive Phase where
  | initSent
  | running
  | done
deriving DecidableEq, Repr

/-- The name of a phase. -/
def Phase.name : Phase → String
  | initSent => "InitSent"
  | running => "Running"
  | done => "Done"

/-- What a session has read: how often, and how many bytes. The counters have no bound. A range has
at most 2147483647 bytes, so 64 bits hold both of them for the first `2 ^ 33` reads. -/
structure Stats where
  fetches : Nat := 0
  bytes : Nat := 0
deriving DecidableEq, Repr

/-- What a session is in the middle of: nothing, or one of the three steps in which a range is
served, with the ranges that come after it. -/
inductive Task where
  | idle
  | read (range : ByteRange) (later : List ByteRange)
  | room (range : ByteRange) (chunk : Bytes) (later : List ByteRange)
  | send (range : ByteRange) (chunk : Bytes) (later : List ByteRange)
deriving DecidableEq

/-- The task of serving ranges. -/
def Task.serve : List ByteRange → Task
  | [] => idle
  | range :: later => read range later

/-- One scan's side of the conversation. -/
structure Session where
  phase : Phase := .initSent
  stats : Stats := {}
  task : Task := .idle
  outcome : Option (Outcome String) := none

/-- What does not change during a session: the length of the content, and how long the session may
wait for room, counted from its start. -/
structure Session.Terms where
  length : UInt64
  timeout : Duration

/-- What a session waits for. -/
inductive Session.Request where
  | message
  | read (offset : UInt64) (capacity : Nat)
  | room
  | send (message : ClientMessage)
  | nothing
deriving DecidableEq

/-- What can happen to a session. `noRoom` tells how much time has passed since the start. -/
inductive Session.Event where
  | message (message : ServerMessage)
  | failed (status : Status)
  | closed
  | read (result : Read)
  | room
  | noRoom (elapsed : Duration)
  | sent
  | notSent

/-- The event that an item of the scanner's stream is to the session. -/
def Session.Event.ofItem : Except Status ServerMessage → Session.Event
  | .ok m => .message m
  | .error status => .failed status

/-- What a session tells the stream that carries its chunks: that it is complete, or that the call
has to be torn down. -/
inductive Session.Signal where
  | halfClose
  | abort (status : Status)
deriving DecidableEq

namespace Session

/-- The session is over. -/
def isDone (s : Session) : Bool := s.phase == .done

/-- The session with its outcome. -/
def finish (s : Session) (outcome : Outcome String) : Session :=
  { s with phase := .done, task := .idle, outcome := some outcome }

/-- The end of a session by an error that is also told to the scanner. -/
def giveUp (s : Session) (code : StatusCode) (text : String) (e : Error) :
    Session × List Signal :=
  (s.finish (.error e), [.abort ⟨code, text⟩])

/-- The end of a session in which the scanner broke the rules. -/
def violation (s : Session) (reason : String) : Session × List Signal :=
  s.giveUp .invalidArgument reason (.protocol reason)

/-- A request for ranges. All of them must be well formed before the first one is served. -/
def retrieve (s : Session) (m : ServerMessage) : Session × List Signal :=
  if m.stage ≠ Stage.run.number then
    s.giveUp .aborted "RETR outside RUN stage"
      (.protocol ("RETR received in stage " ++ toString m.stage))
  else
    match m.ranges with
    | .error fault => s.violation fault.message
    | .ok ranges => ({ s with phase := .running, task := .serve ranges }, [])

/-- A message of the scanner. -/
def handle (s : Session) (m : ServerMessage) : Session × List Signal :=
  match Command.ofNumber? m.command with
  | some .retr => s.retrieve m
  | some .quit => (s.finish (.ok m.result), [.halfClose])
  | none => s.violation ("unknown command " ++ toString m.command)

/-- The error for a call that ended with a status. -/
def statusError (status : Status) : Error :=
  if status.code = .unauthenticated then .authFailed
  else .transport (Int32.ofNat status.code.number) status.text

/-- The buffer for a range: as long as the content can fill it. -/
def capacity (terms : Terms) (range : ByteRange) : Nat :=
  readableLength terms.length range.start range.size.toNat

/-- The chunk that a read gives: as much of the buffer as was read. -/
def chunkOf (terms : Terms) (range : ByteRange) (result : Read) (n : Nat) : Bytes :=
  (result.buffer (List.replicate (capacity terms range) 0)).take n

/-- What the session waits for. -/
def request (terms : Terms) (s : Session) : Request :=
  if s.isDone then .nothing
  else
    match s.task with
    | .idle => .message
    | .read range _ => .read range.start (capacity terms range)
    | .room _ _ _ => .room
    | .send range chunk _ => .send (.ofChunk range.offset chunk)

/-- How the session goes on. An event that it does not wait for changes nothing. -/
def step (terms : Terms) (s : Session) (event : Event) : Session × List Signal :=
  if s.isDone then (s, [])
  else
    match s.task, event with
    | .idle, .message m => s.handle m
    | .idle, .failed status => (s.finish (.error (statusError status)), [])
    | .idle, .closed => (s.finish (.error (.protocol "stream closed before QUIT")), [])
    | .read range later, .read result =>
      match result.outcome with
      | .error e => s.giveUp .aborted "content read failed" e
      | .ok n =>
        let stats : Stats := { fetches := s.stats.fetches + 1, bytes := s.stats.bytes + n }
        ({ s with stats, task := .room range (chunkOf terms range result n) later }, [])
    | .room range chunk later, .room => ({ s with task := .send range chunk later }, [])
    | .room _ _ _, .noRoom elapsed =>
      if terms.timeout.nanos < elapsed.nanos then
        s.giveUp .deadlineExceeded "scan deadline exceeded" (.deadlineExceeded elapsed)
      else (s, [])
    | .send _ _ later, .sent => ({ s with task := .serve later }, [])
    | .send _ _ _, .notSent => ({ s with task := .idle }, [])
    | _, _ => (s, [])

/-- What a session that is dropped leaves to the one who waits for its outcome. -/
def completion (s : Session) : Outcome String :=
  s.outcome.getD (.error (.unexpected "scan session ended without an outcome"))

/-- Nothing happens to a session that is over. -/
theorem step_of_isDone {terms : Terms} {s : Session} (h : s.isDone = true) (event : Event) :
    s.step terms event = (s, []) := by
  simp [step, h]

end Session

end MalwareScan
