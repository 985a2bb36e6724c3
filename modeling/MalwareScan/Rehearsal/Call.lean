import MalwareScan.Client.Line
import MalwareScan.Rehearsal.Script

/-!
# Calls in a rehearsal

A call has two sides: the client's, which is a line with its session, and the scanner's, which plays
its script cue by cue and notes what it sees of the client.
-/

namespace MalwareScan.Rehearsal

open Wire (ServerMessage Status)

/-- The scanner's side of a call: what is left of its script, when it wakes up, and what it has
noticed, the last first. -/
structure Scanner where
  cues : List Cue
  wakes? : Option Nat := none
  notes : List Note := []
  finished : Bool := false

/-- A call with its two sides, the number of its scan, when its session started, when the wait for
room ends, and whether the call is no longer wanted. -/
structure Call where
  line : Line
  scanner : Scanner
  scan : Nat
  started : Nat
  ends? : Option Nat := none
  unwanted : Bool := false

namespace Call

/-- The call after its scanner went on to `cues`. -/
def goOn (call : Call) (cues : List Cue) (note : Option Note) : Call :=
  { call with
    scanner := { call.scanner with
      cues, wakes? := none, notes := note.toList ++ call.scanner.notes } }

/-- The scanner sends an item of its stream, once there is room. -/
def utter (call : Call) (item : Except Status ServerMessage) (cues : List Cue)
    (unheard : Option Note) : Option Call :=
  if ¬ call.line.speaking then some (call.goOn cues none)
  else if ¬ call.line.listening then some (call.goOn cues unheard)
  else if call.line.hasRoom then some ({ call with line := call.line.say item }.goOn cues none)
  else none

/-- The scanner takes a message. `cues` is what it does then, and `ended` the call when none comes
any more. -/
def take (call : Call) (cues : List Cue) (ended : Option Call) : Option Call :=
  match call.line.channel.receive with
  | (.message m, channel) =>
    some ({ call with line := { call.line with channel } }.goOn cues (some (.message m)))
  | (.empty, _) => none
  | (.disconnected, _) => ended

/-- The last thing a scanner does: it looks how the client's stream ended. -/
def conclude (call : Call) : Option Call :=
  let done (note : Note) : Call :=
    let call := call.goOn [] (some note)
    { call with scanner := { call.scanner with finished := true } }
  match call.line.channel.takeSignal with
  | (.status status, _) => some (done (.aborted status))
  | (.settled, _) => some (done .halfClosed)
  | (.undecided, _) => none

/-- One step of the scanner's side of a call, sleeping apart. -/
def perform (call : Call) : Option Call :=
  match call.scanner.cues with
  | .take 0 :: cues => some (call.goOn cues none)
  | .take (n + 1) :: cues =>
    call.take (.take n :: cues) (some (call.goOn cues (some .streamEnded)))
  | .say message :: cues => call.utter (.ok message) cues (some .clientGone)
  | .fail status :: cues => call.utter (.error status) cues none
  | .sleep _ :: cues => some (call.goOn cues none)
  | .finish :: cues => some ({ call with line := call.line.fallSilent }.goOn cues none)
  | .hold :: cues =>
    if call.line.listening ∧ call.line.speaking then none else some (call.goOn cues none)
  | [] =>
    if call.line.speaking then some { call with line := call.line.fallSilent }
    else call.take [] call.conclude

end Call

end MalwareScan.Rehearsal
