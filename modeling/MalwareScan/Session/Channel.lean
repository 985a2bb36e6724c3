import MalwareScan.Error
import MalwareScan.Wire.ClientMessage
import MalwareScan.Wire.Status

/-!
# The channel of a scan

The client's messages go to the scanner through a channel: a queue of bounded length, and beside
it a signal that tells the far side whether the stream is complete. A sender may reserve a place
in the queue; the reservation counts as a queued message and holds even if the far side stops
receiving.

The signal is decided once: a half-close decides that none will come, an abort gives its status, and
dropping an undecided channel aborts it as cancelled.
-/

namespace MalwareScan

open Wire (ClientMessage Status StatusCode)

/-- The signal to the far side: undecided, decided and not yet taken, or nothing more to come. -/
inductive AbortSignal where
  | undecided
  | given (status : Status)
  | settled
deriving DecidableEq

/-- A channel for the messages of one scan. -/
structure Channel where
  capacity : Nat
  queue : List ClientMessage := []
  reserved : Bool := false
  isOpen : Bool := true
  receiving : Bool := true
  signal : AbortSignal := .undecided

/-- What became of a message. -/
inductive Sending where
  | sent
  | full
  | failed (e : Error)

/-- What the far side finds when it looks for a message. -/
inductive Receipt where
  | message (m : ClientMessage)
  | empty
  | disconnected

/-- What the far side finds when it looks for the signal. -/
inductive SignalReceipt where
  | status (status : Status)
  | undecided
  | settled

namespace Channel

/-- An empty channel with room for `capacity` messages, at least one. -/
def new (capacity : Nat) : Channel :=
  { capacity := max capacity 1 }

/-- How many places are taken. -/
def load (c : Channel) : Nat :=
  c.queue.length + if c.reserved then 1 else 0

/-- There is a free place. -/
def hasRoom (c : Channel) : Bool :=
  c.load < c.capacity

/-- The stream was half-closed or aborted. -/
def isClosed (c : Channel) : Bool := !c.isOpen

/-- The next message will not have to wait: because a place is or can be reserved, or because it
will fail at once. Otherwise there is nothing to do but wait. -/
def ready? (c : Channel) : Option Channel :=
  if c.reserved ∨ ¬ c.isOpen ∨ ¬ c.receiving then some c
  else if c.hasRoom then some { c with reserved := true }
  else none

/-- Sends a message, into the reserved place if there is one. -/
def send (c : Channel) (m : ClientMessage) : Sending × Channel :=
  if c.reserved then (.sent, { c with queue := c.queue ++ [m], reserved := false })
  else if ¬ c.isOpen then (.failed (.unexpected "send on a closed scan stream"), c)
  else if ¬ c.receiving then (.failed (.unexpected "scan stream receiver dropped"), c)
  else if c.hasRoom then (.sent, { c with queue := c.queue ++ [m] })
  else (.full, c)

/-- The channel without its sending side. -/
def shut (c : Channel) : Channel :=
  { c with reserved := false, isOpen := false }

/-- The stream is complete. -/
def halfClose (c : Channel) : Channel :=
  { c.shut with signal := if c.signal = .undecided then .settled else c.signal }

/-- The call is torn down, unless its end is already decided. -/
def abort (c : Channel) (status : Status) : Channel :=
  { c.shut with signal := if c.signal = .undecided then .given status else c.signal }

/-- The status of a channel that is dropped undecided. -/
def droppedStatus : Status := ⟨.cancelled, "scan session dropped"⟩

/-- The sending side goes away. -/
def drop (c : Channel) : Channel :=
  c.abort droppedStatus

/-- The far side looks for a message. None will come any more when the sending side is gone, or when
the far side has stopped receiving and no place is reserved. -/
def receive (c : Channel) : Receipt × Channel :=
  match c.queue with
  | m :: queue => (.message m, { c with queue })
  | [] =>
    if c.reserved then (.empty, c)
    else if c.isOpen ∧ c.receiving then (.empty, c)
    else (.disconnected, c)

/-- The far side stops receiving. Messages in the queue stay. -/
def stopReceiving (c : Channel) : Channel :=
  { c with receiving := false }

/-- The far side goes away. What is queued is lost. -/
def leave (c : Channel) : Channel :=
  { c with receiving := false, queue := [] }

/-- The far side looks for the signal. A status is given once. -/
def takeSignal (c : Channel) : SignalReceipt × Channel :=
  match c.signal with
  | .undecided => (.undecided, c)
  | .given status => (.status status, { c with signal := .settled })
  | .settled => (.settled, c)

end Channel

end MalwareScan
