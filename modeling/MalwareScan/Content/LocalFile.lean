import MalwareScan.Content.Basic
import MalwareScan.Files.System

/-!
# Local files

A file is opened once: its length and its digests are captured then. Later reads go to whatever
the file holds at that time, however the system splits them, and never give fewer bytes than the
captured length promises.
-/

namespace MalwareScan

open Files (FileSystem FileFault)

/-- How much the system gives for each of a row of reads, at least one byte as long as there is
one. -/
abbrev Grants := Nat → Nat

namespace Grants

/-- Every read gives all that was asked for. -/
def whole : Grants := fun _ => 18446744073709551616

/-- What one read gives of `data` at `position`, asked for `count` bytes. -/
def read (grant : Nat) (data : Bytes) (position count : Nat) : Bytes :=
  data.slice position (min count (max grant 1))

end Grants

/-- An open handle of a file: where its next read begins. -/
structure FileHandle where
  position : Nat := 0
deriving DecidableEq

namespace FileHandle

/-- The handle at another position. -/
def seek (handle : FileHandle) (position : Nat) : FileHandle :=
  { handle with position }

/-- What one read gives of `data`, asked for `count` bytes, and the handle behind it. -/
def read (handle : FileHandle) (grant : Nat) (data : Bytes) (count : Nat) : Bytes × FileHandle :=
  let front := Grants.read grant data handle.position count
  (front, handle.seek (handle.position + front.length))

/-- What a row of reads gives until `count` bytes are there or the data ends, and the handle behind
them. `turn` is how many reads came before. -/
def fill (handle : FileHandle) (grants : Grants) (data : Bytes) (turn count : Nat) :
    Bytes × FileHandle :=
  let (front, next) := handle.read (grants turn) data count
  if _h : front.length = 0 ∨ count ≤ front.length then (front, next)
  else
    let (rest, last) := next.fill grants data (turn + 1) (count - front.length)
    (front ++ rest, last)
termination_by count

end FileHandle

/-- An open file. -/
structure LocalFile where
  path : String
  length : UInt64
  digests : Digests
  file : Nat

namespace LocalFile

/-- The size of the pieces in which a file is digested. -/
def digestPiece : Nat := 65536

/-- The digests of a file that is read in pieces until a read gives nothing. -/
def digestFrom (grants : Grants) (data : Bytes) (turn position : Nat) (hasher : Hasher) : Hasher :=
  let piece := Grants.read (grants turn) data position digestPiece
  if _h : piece.length = 0 then hasher
  else digestFrom grants data (turn + 1) (position + piece.length) (hasher.update piece)
termination_by data.length - position
decreasing_by
  simp only [piece, Grants.read, Bytes.length_slice, digestPiece] at _h ⊢
  omega

/-- What a failure to open `path` means for the caller. -/
def openError (path : String) (fault : FileFault) : Error :=
  let fault := fault.toIoFault
  match fault.kind with
  | .permissionDenied => .noPermission path
  | .notFound => .fileNotFound path
  | _ => .io fault

/-- Opens the file at `path`. A directory is no file. -/
def «open» (fs : FileSystem) (grants : Grants) (path : String) (digest : Bool) :
    Outcome LocalFile :=
  match fs.find path with
  | .error fault => .error (openError path fault)
  | .ok (.file file) =>
    let data := fs.content file
    let digests :=
      if digest then (digestFrom grants data 0 0 Hasher.new).finish else Digests.none
    .ok { path, length := UInt64.ofNat data.length, digests, file }
  | .ok _ => .error (.fileNotFound path)

/-- The error for content that ends at `position`, before the captured length. -/
def endedError (source : LocalFile) (position : Nat) : Error :=
  .io ⟨.unexpectedEof, source.path ++ " ended at " ++ toString position ++ " bytes, expected " ++
    toString source.length⟩

/-- A ranged read over an open handle while the file holds `data`, and the handle behind it. -/
def readOver (source : LocalFile) (data : Bytes) (grants : Grants) (handle : FileHandle)
    (offset : UInt64) (capacity : Nat) : Read × FileHandle :=
  let want := readableLength source.length offset capacity
  if want = 0 then (.of [], handle)
  else
    let (front, handle) := (handle.seek offset.toNat).fill grants data 0 want
    if front.length < want then
      (⟨front, .error (source.endedError (offset.toNat + front.length))⟩, handle)
    else (.of front, handle)

/-- A ranged read while the file holds `data`. -/
def read (source : LocalFile) (data : Bytes) (grants : Grants) (offset : UInt64) (capacity : Nat) :
    Read :=
  (source.readOver data grants {} offset capacity).1

/-- An open file as content, while the file system does not change. -/
def content (source : LocalFile) (fs : FileSystem) (grants : Grants) : Content where
  length := source.length
  name := source.path
  digest := source.digests.tagged
  read _ := source.read (fs.content source.file) grants

end LocalFile

end MalwareScan
