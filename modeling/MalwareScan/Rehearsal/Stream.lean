import MalwareScan.Session.Run

/-!
# Scripted streams

A session can be rehearsed alone, over a stream whose answers are scripted: which waits for room
succeed, and which messages cannot be sent. The stream keeps a log of all that the session did to
it, and a clock that goes on with each wait that fails.
-/

namespace MalwareScan.Rehearsal

open Wire (ClientMessage)

/-- What a session did to its stream. -/
inductive Entry where
  | waited (ready : Bool)
  | sent (m : ClientMessage)
  | notSent
  | signalled (signal : Session.Signal)

/-- A scripted stream: the answers of the next waits and of all waits after them, the numbers of the
messages that cannot be sent, the clock, how many messages and reads there were, and the log, the
last entry first. -/
structure Stream where
  ready : List Bool := []
  readyAfter : Bool := true
  failing : List Nat := []
  now : Duration := ⟨0⟩
  sends : Nat := 0
  reads : Nat := 0
  log : List Entry := []

namespace Stream

/-- The stream with one more entry in its log. -/
def note (stream : Stream) (entry : Entry) : Stream :=
  { stream with log := entry :: stream.log }

/-- The stream at a later time. -/
def advance (stream : Stream) (d : Duration) : Stream :=
  { stream with now := ⟨stream.now.nanos + d.nanos⟩ }

/-- The log in order, and the stream with an empty one. -/
def takeLog (stream : Stream) : List Entry × Stream :=
  (stream.log.reverse, { stream with log := [] })

/-- The stream and a content as the surroundings of a session. -/
def surroundings (content : Content) : Surroundings Stream where
  read stream offset capacity :=
    (content.read stream.reads offset capacity, { stream with reads := stream.reads + 1 })
  waitForRoom stream :=
    let ready := stream.ready.headD stream.readyAfter
    let stream := { stream with ready := stream.ready.tail }.note (.waited ready)
    if ready then (none, stream)
    else
      let stream := stream.advance readyInterval
      (some stream.now, stream)
  send stream m :=
    let fails := stream.failing.contains stream.sends
    let stream := { stream with sends := stream.sends + 1 }
    if fails then (false, stream.note .notSent) else (true, stream.note (.sent m))
  signal stream signal := stream.note (.signalled signal)

end Stream

end MalwareScan.Rehearsal
