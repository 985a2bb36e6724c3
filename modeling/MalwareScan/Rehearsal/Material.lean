import MalwareScan.Content.Remote

/-!
# Material for rehearsals

Contents and stores that live in memory and fail when they are told to.
-/

namespace MalwareScan.Rehearsal

/-- A store that holds one object in memory, and behind the bytes of each fetch gives `surplus` more
that do not belong to it. -/
def memoryStore (data : Bytes) (info : Outcome ObjectInfo) (failure : Option Error)
    (surplus : Bytes) : ObjectStore where
  info := info
  fetch first last :=
    match failure with
    | some e => .error e
    | none => .ok (data.slice first.toNat (last.toNat + 1 - first.toNat) ++ surplus)

/-- A content of the same byte everywhere, whatever its length. Each read fills the buffer and tells
of at most `most` bytes; those with a number in `failing` fail. -/
def uniformContent (length : UInt64) (name : String) (digest : HashKind → String) (byte : UInt8)
    (failing : List Nat) (failure : Error) (most : Option Nat) : Content where
  length := length
  name := name
  digest := digest
  read earlier _ capacity :=
    if failing.contains earlier then .failed failure
    else ⟨List.replicate capacity byte, .ok (min capacity (most.getD capacity))⟩

end MalwareScan.Rehearsal
