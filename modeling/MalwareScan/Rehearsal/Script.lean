import MalwareScan.Content.Basic
import MalwareScan.Options
import MalwareScan.Wire.ClientMessage
import MalwareScan.Wire.ServerMessage
import MalwareScan.Wire.Status

/-!
# Scripts

In a rehearsal a client talks to scripted scanners. A script says what a scanner does in one call, a
plan how the call comes about, and the user's actions are what is done with the client.
-/

namespace MalwareScan.Rehearsal

open Wire (ClientMessage ServerMessage Status)

/-- One thing that a scanner does: it takes a number of messages, sends one, fails the call, lets
time pass, ends its stream, or waits until the client is gone. -/
inductive Cue where
  | take (count : Nat)
  | say (message : ServerMessage)
  | fail (status : Status)
  | sleep (millis : Nat)
  | finish
  | hold

/-- How a call comes about: after a delay, either with an error, or with a channel of the given
capacity and a scanner that plays a script. A scanner may refuse to take any message. -/
structure Plan where
  delay : Nat := 0
  failure : Option Error := none
  capacity : Nat := 4
  refuses : Bool := false
  script : List Cue := []

/-- What a scanner notices. -/
inductive Note where
  | message (m : ClientMessage)
  | streamEnded
  | clientGone
  | halfClosed
  | aborted (status : Status)

/-- What is done with the client. A scan whose content cannot be opened fails at once. -/
inductive Action where
  | scan (content : Outcome Content) (options : ScanOptions)
  | start (content : Outcome Content) (options : ScanOptions)
  | join (scan : Nat)
  | kill (scan : Nat)
  | sleep (millis : Nat)
  | close
  | timeout

/-- What an action gives. -/
inductive Answer where
  | outcome (outcome : Outcome String)
  | index (scan : Nat)
  | nothing
  | closed (graceUsed : Bool)
  | millis (n : Nat)

end MalwareScan.Rehearsal
