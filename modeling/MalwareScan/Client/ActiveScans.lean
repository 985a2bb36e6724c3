/-!
# Active scans

A client counts the scans in flight, and whoever shuts it down waits until there are none. Every
access to the count and every notification is one step, so that the steps of several scans and of
the one who waits may come in any order. The waiting one registers before it looks at the count; a
notification reaches it only while it is registered.
-/

namespace MalwareScan

/-- The scans in flight, and the registration of the one who waits for them: whether it was notified
since. -/
structure ActiveScans where
  count : Nat := 0
  registration : Option Bool := none
deriving DecidableEq, Repr

namespace ActiveScans

/-- One more scan. -/
def enter (scans : ActiveScans) : ActiveScans :=
  { scans with count := scans.count + 1 }

/-- One scan less, and whether it was the last one. -/
def leave (scans : ActiveScans) : ActiveScans × Bool :=
  ({ scans with count := scans.count - 1 }, scans.count == 1)

/-- Whoever is registered is notified. -/
def notify (scans : ActiveScans) : ActiveScans :=
  { scans with registration := scans.registration.map fun _ => true }

/-- Registers the one who waits, without a notification yet. -/
def register (scans : ActiveScans) : ActiveScans :=
  { scans with registration := some false }

/-- Ends the registration. -/
def unregister (scans : ActiveScans) : ActiveScans :=
  { scans with registration := none }

/-- No scan is in flight. -/
def isIdle (scans : ActiveScans) : Bool :=
  scans.count == 0

/-- The one who waits was notified. -/
def isNotified (scans : ActiveScans) : Bool :=
  scans.registration == some true

end ActiveScans

end MalwareScan
