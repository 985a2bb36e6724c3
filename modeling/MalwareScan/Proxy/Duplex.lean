import MalwareScan.Bytes
import MalwareScan.Error

/-!
# Connections

The two directions of a connection to a proxy: what was sent, and what is still to be read, in the
fragments in which it arrives. A read gives at most what one fragment holds, and nothing only at the
end.
-/

namespace MalwareScan.Proxy

/-- A connection. -/
structure Duplex where
  incoming : List Bytes
  sent : Bytes := []

namespace Duplex

/-- Everything that is still to be read. -/
def unread (d : Duplex) : Bytes := d.incoming.flatten

/-- One read of at most `count` bytes. -/
def readSome (count : Nat) : List Bytes → Bytes × List Bytes
  | [] => ([], [])
  | [] :: fragments => readSome count fragments
  | fragment :: fragments => (fragment.take count, fragment.drop count :: fragments)

/-- Reads until `count` bytes are there or the stream ends. -/
def readUpTo : (fuel count : Nat) → List Bytes → Bytes × List Bytes
  | 0, _, fragments => ([], fragments)
  | fuel + 1, count, fragments =>
    if count = 0 then ([], fragments)
    else
      let (front, rest) := readSome count fragments
      if front.isEmpty then ([], rest)
      else
        let (more, rest) := readUpTo fuel (count - front.length) rest
        (front ++ more, rest)

end Duplex

/-- A part of a handshake: it reads and sends, and may fail. -/
abbrev Handshake (α : Type) := Duplex → Except IoFault α × Duplex

namespace Handshake

/-- A part that does nothing. -/
def pure {α : Type} (x : α) : Handshake α := fun d => (.ok x, d)

/-- A part that fails. -/
def fail {α : Type} (text : String) : Handshake α := fun d => (.error ⟨.other, text⟩, d)

/-- One part after the other. -/
def bind {α β : Type} (first : Handshake α) (next : α → Handshake β) : Handshake β := fun d =>
  match first d with
  | (.ok x, d) => next x d
  | (.error fault, d) => (.error fault, d)

instance : Monad Handshake where
  pure := Handshake.pure
  bind := Handshake.bind

/-- Sends bytes. -/
def send (bytes : Bytes) : Handshake Unit := fun d =>
  (.ok (), { d with sent := d.sent ++ bytes })

/-- Reads one byte, if there is one. -/
def readByte? : Handshake (Option UInt8) := fun d =>
  let (front, rest) := Duplex.readSome 1 d.incoming
  (.ok front.head?, { d with incoming := rest })

/-- Reads exactly `count` bytes. -/
def readExact (count : Nat) : Handshake Bytes := fun d =>
  let (front, rest) := Duplex.readUpTo count count d.incoming
  if front.length < count then
    (.error ⟨.unexpectedEof, "early eof"⟩, { d with incoming := rest })
  else (.ok front, { d with incoming := rest })

end Handshake

end MalwareScan.Proxy
