import MalwareScan.Error
import MalwareScan.Digest.Basic

/-!
# Content

Content is what a scanner may read from: it has a length, a name and digests, and answers ranged
reads. A read is given an offset and a buffer; it fills the front of the buffer and says how many
bytes it read. It never goes past the length, and content that turns out shorter is an error.
-/

namespace MalwareScan

/-- How many bytes a read at `offset` into a buffer of `capacity` bytes should give. -/
def readableLength (length offset : UInt64) (capacity : Nat) : Nat :=
  if length ≤ offset then 0 else min (length - offset).toNat capacity

/-- The effect of a read: the bytes written to the front of the buffer, and the outcome. -/
structure Read where
  front : Bytes
  outcome : Outcome Nat

namespace Read

/-- A read that gives exactly these bytes. -/
def of (front : Bytes) : Read := ⟨front, .ok front.length⟩

/-- A read that fails without touching the buffer. -/
def failed (e : Error) : Read := ⟨[], .error e⟩

/-- The buffer after the read. -/
def buffer (read : Read) (before : Bytes) : Bytes :=
  before.overwrite read.front

end Read

/-- Something that can be read from. `read` is told how many reads came before it. -/
structure Content where
  length : UInt64
  name : String
  digest : HashKind → String
  read : (earlier : Nat) → (offset : UInt64) → (capacity : Nat) → Read

/-- No read gives more than the buffer holds. -/
theorem readableLength_le (length offset : UInt64) (capacity : Nat) :
    readableLength length offset capacity ≤ capacity := by
  unfold readableLength
  split
  · exact Nat.zero_le _
  · exact Nat.min_le_right _ _

end MalwareScan
