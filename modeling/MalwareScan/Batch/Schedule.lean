/-!
# Batches of scans

The scans of a batch share a number of permits. A scan waits until it gets a permit, keeps it
while it runs, and gives it back at its end, so that no more scans run at a time than there are
permits. Scans may take their turns and end in any order. Whoever started the batch collects the
scans that have ended, also in any order, and counts those without a verdict.
-/

namespace MalwareScan

/-- How a scan ended: with a verdict, with an error, or by a crash. -/
inductive Ending where
  | succeeded
  | failed
  | crashed
deriving DecidableEq, Repr

/-- The scan ended without a verdict. -/
def Ending.isFailure : Ending → Bool
  | succeeded => false
  | failed | crashed => true

/-- Where a scan of a batch stands. -/
inductive Standing where
  | waiting
  | running
  | ended (ending : Ending)
  | collected (ending : Ending)
deriving DecidableEq, Repr

/-- What happens in a batch: a scan gets a permit and begins, it ends and gives the permit back,
or it is collected. -/
inductive BatchEvent where
  | begin (scan : Nat)
  | finish (scan : Nat) (ending : Ending)
  | collect (scan : Nat)
deriving DecidableEq, Repr

/-- The scan that ends by the event, if one does. -/
def BatchEvent.finished? : BatchEvent → Option Nat
  | finish scan _ => some scan
  | begin _ | collect _ => none

/-- A batch: the permits that are free, where each scan stands, and how many of the collected scans
ended without a verdict. -/
structure Batch where
  permits : Nat
  scans : List Standing
  failed : Nat := 0
deriving DecidableEq, Repr

namespace Batch

/-- The most permits of a batch. -/
def maxPermits : Nat := 2305843009213693951

/-- A batch of `count` scans, of which `permits` may run at a time, unless these are too many. -/
def new? (permits count : Nat) : Option Batch :=
  if permits ≤ maxPermits then some { permits, scans := List.replicate count .waiting } else none

/-- The number of scans that run. -/
def running (b : Batch) : Nat :=
  b.scans.count .running

/-- Every scan has been collected. -/
def isOver (b : Batch) : Bool :=
  b.scans.all fun standing =>
    match standing with
    | .collected _ => true
    | _ => false

/-- The batch after an event, if it can happen now. -/
def step? (b : Batch) : BatchEvent → Option Batch
  | .begin i =>
    if b.scans[i]? = some .waiting ∧ 0 < b.permits then
      some { b with permits := b.permits - 1, scans := b.scans.set i .running }
    else none
  | .finish i ending =>
    if b.scans[i]? = some .running then
      some { b with permits := b.permits + 1, scans := b.scans.set i (.ended ending) }
    else none
  | .collect i =>
    match b.scans[i]? with
    | some (.ended ending) =>
      some { b with
        scans := b.scans.set i (.collected ending)
        failed := if ending.isFailure then b.failed + 1 else b.failed }
    | _ => none

/-- The batch after some events, if they can happen one after the other. -/
def play (b : Batch) (events : List BatchEvent) : Option Batch :=
  events.foldlM step? b

/-- The events of scans that run and are collected one after the other, from the scan `first` on. -/
def oneByOne (first : Nat) : List Ending → List BatchEvent
  | [] => []
  | ending :: endings =>
    [.begin first, .finish first ending, .collect first] ++ oneByOne (first + 1) endings

end Batch

end MalwareScan
