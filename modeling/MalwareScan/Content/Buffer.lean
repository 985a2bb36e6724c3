import MalwareScan.Content.Basic

/-!
# Buffers

Content that is held in memory.
-/

namespace MalwareScan

/-- Bytes in memory under a name. -/
structure Buffer where
  name : String
  data : Bytes
  digests : Digests

namespace Buffer

/-- A buffer over `data`; its digests are computed if `digest` says so. -/
def new (data : Bytes) (name : String) (digest : Bool) : Buffer :=
  { name, data, digests := if digest then Digests.ofBytes data else Digests.none }

/-- The length of a buffer. -/
def length (buffer : Buffer) : UInt64 :=
  UInt64.ofNat buffer.data.length

/-- A ranged read. -/
def read (buffer : Buffer) (offset : UInt64) (capacity : Nat) : Read :=
  .of (buffer.data.slice offset.toNat (readableLength buffer.length offset capacity))

/-- A buffer as content. -/
def content (buffer : Buffer) : Content where
  length := buffer.length
  name := buffer.name
  digest := buffer.digests.tagged
  read _ := buffer.read

end Buffer

end MalwareScan
