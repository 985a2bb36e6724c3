import MalwareScan.Digest.Sha1
import MalwareScan.Digest.Sha256
import MalwareScan.Encoding.Hex

/-!
# Digests of content

The scanner is told up to two digests of the content, each as a text that names its algorithm. A
source without digests reports empty texts. Digests are computed from the content, which may arrive
in parts (`Hasher`), or taken from checksums that a store of objects already knows
(`Digests.ofHex`).
-/

namespace MalwareScan

/-- The digest algorithms that a source can report. -/
inductive HashKind
  | sha1
  | sha256
  deriving DecidableEq, Repr

/-- The tag in front of the digest. -/
def HashKind.tag : HashKind → String
  | .sha1 => "sha1"
  | .sha256 => "sha256"

/-- The digests known of some content, in lower-case hexadecimal. -/
structure Digests where
  sha1 : Option String
  sha256 : Option String
  deriving DecidableEq, Repr

namespace Digests

/-- No digest is known. -/
def none : Digests :=
  ⟨.none, .none⟩

/-- The digest of one kind. -/
def hex (digests : Digests) : HashKind → Option String
  | .sha1 => digests.sha1
  | .sha256 => digests.sha256

/-- The digest of one kind after its tag and a colon, and the empty text if it is not known. -/
def tagged (digests : Digests) (kind : HashKind) : String :=
  match digests.hex kind with
  | some text => kind.tag ++ ":" ++ text
  | .none => ""

/-- `text` in lower case, unless it is empty. ASCII letters alone have a lower case here. -/
def known (text : Option String) : Option String :=
  (text.filter fun t => !t.isEmpty).map fun t => t.map Char.toLower

/-- Digests known beforehand, in hexadecimal of either case; an empty text is no digest. -/
def ofHex (sha1 sha256 : Option String) : Digests :=
  ⟨known sha1, known sha256⟩

@[simp] theorem tagged_none (kind : HashKind) : none.tagged kind = "" := by
  cases kind <;> rfl

end Digests

/-- Both digests of content that arrives in parts. -/
structure Hasher where
  sha1 : Digest.Stream Digest.Sha1.State
  sha256 : Digest.Stream Digest.Sha256.State

namespace Hasher

/-- Nothing has arrived. -/
def new : Hasher :=
  ⟨.new Digest.Sha1.hash, .new Digest.Sha256.hash⟩

/-- More content arrives. -/
def update (hasher : Hasher) (data : Bytes) : Hasher :=
  ⟨hasher.sha1.update Digest.Sha1.hash data, hasher.sha256.update Digest.Sha256.hash data⟩

/-- The digests of all that arrived. -/
def finish (hasher : Hasher) : Digests :=
  ⟨some (Hex.encode (hasher.sha1.finish Digest.Sha1.hash)),
    some (Hex.encode (hasher.sha256.finish Digest.Sha256.hash))⟩

/-- To feed nothing at first changes nothing. -/
theorem update_new_nil : new.update [] = new := by
  rw [update, new, Digest.Stream.update_new_nil, Digest.Stream.update_new_nil]

/-- Feeding two parts is feeding them joined. -/
theorem update_append (hasher : Hasher) (a b : Bytes) :
    hasher.update (a ++ b) = (hasher.update a).update b := by
  simp [update, Digest.Stream.update_append]

end Hasher

/-- The digests of `data`. -/
def Digests.ofBytes (data : Bytes) : Digests :=
  (Hasher.new.update data).finish

end MalwareScan
