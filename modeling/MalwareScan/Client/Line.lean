import MalwareScan.Session.Basic
import MalwareScan.Session.Channel

/-!
# Calls to the scanner

A line is one call to the scanner with all that is under way in it: the channel for the client's
messages, the session that writes to it, and the scanner's messages that the session has not seen
yet. The client's side moves by `Line.step`; when its session is over, or is no longer wanted, it
hangs up, which drops whatever is still open.
-/

namespace MalwareScan

open Wire (ClientMessage ServerMessage Status)

/-- The most messages of the scanner that wait for the session. -/
def inboundCapacity : Nat := 16

/-- A call to the scanner. `speaking` says whether the scanner may send more, and `listening`
whether the client is still there. -/
structure Line where
  channel : Channel
  session : Session := {}
  inbound : List (Except Status ServerMessage) := []
  speaking : Bool := true
  listening : Bool := true
  reads : Nat := 0

namespace Line

/-- A new call, in which `opening` is the first message. If it cannot be sent, the scanner will say
why the call failed. -/
def opened (channel : Channel) (opening : ClientMessage) : Line :=
  { channel := (channel.send opening).2 }

/-- What a signal of the session does to the channel. -/
def signalled (channel : Channel) : Session.Signal → Channel
  | .halfClose => channel.halfClose
  | .abort status => channel.abort status

/-- The call after an event of its session. -/
def act (terms : Session.Terms) (line : Line) (event : Session.Event) : Line :=
  let (session, signals) := line.session.step terms event
  { line with session, channel := signals.foldl signalled line.channel }

/-- What happens next to the session, and the call in which it happens, or nothing if the client's
side has to wait. `waited` is the time since the start of the session, if a wait for room has just
ended. -/
def next? (terms : Session.Terms) (content : Content) (waited : Option Duration) (line : Line) :
    Option (Session.Event × Line) :=
  match line.session.request terms with
  | .nothing => none
  | .message =>
    match line.inbound with
    | item :: inbound => some (.ofItem item, { line with inbound })
    | [] => if line.speaking then none else some (.closed, line)
  | .read offset capacity =>
    some (.read (content.read line.reads offset capacity), { line with reads := line.reads + 1 })
  | .room =>
    match line.channel.ready? with
    | some channel => some (.room, { line with channel })
    | none => waited.map fun elapsed => (.noRoom elapsed, line)
  | .send message =>
    match line.channel.send message with
    | (.sent, channel) => some (.sent, { line with channel })
    | (.failed _, channel) => some (.notSent, { line with channel })
    | (.full, _) => none

/-- One step of the client's side, or nothing if it has to wait. -/
def step (terms : Session.Terms) (content : Content) (waited : Option Duration) (line : Line) :
    Option Line :=
  (line.next? terms content waited).map fun (event, line) => line.act terms event

/-- The session waits for room in the channel. -/
def awaitsRoom (terms : Session.Terms) (line : Line) : Bool :=
  match line.session.request terms with
  | .room => line.channel.ready?.isNone
  | _ => false

/-- The client's side goes away. -/
def hangUp (line : Line) : Line :=
  { line with channel := line.channel.drop, inbound := [], listening := false }

/-- There is room for one more message of the scanner. -/
def hasRoom (line : Line) : Bool :=
  line.inbound.length < inboundCapacity

/-- The call with one more item of the scanner's stream. -/
def say (line : Line) (item : Except Status ServerMessage) : Line :=
  { line with inbound := line.inbound ++ [item] }

/-- The scanner sends nothing more. -/
def fallSilent (line : Line) : Line :=
  { line with speaking := false }

end Line

end MalwareScan
