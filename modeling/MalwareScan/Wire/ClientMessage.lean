import MalwareScan.Wire.Record
import MalwareScan.Wire.Stage

/-!
# Messages of the client

The client opens a scan with one message that describes the content and then sends the content in
chunks.
-/

namespace MalwareScan.Wire

/-- A message of the client. -/
structure ClientMessage where
  stage : Int32 := 0
  fileName : String := ""
  size : Int64 := 0
  offset : Int32 := 0
  chunk : Bytes := []
  pml : Bool := false
  sha1 : String := ""
  sha256 : String := ""
  tags : List String := []
  bulk : Bool := false
  feedback : Bool := false
  verbose : Bool := false
  activeContent : Bool := false
deriving DecidableEq

namespace ClientMessage

/-- The message that carries the content at `offset`. -/
def ofChunk (offset : Int32) (chunk : Bytes) : ClientMessage :=
  { stage := Stage.run.number, offset, chunk }

/-- The bytes of a message. -/
def encode (m : ClientMessage) : Bytes :=
  writeInt32 1 m.stage ++ writeText 2 m.fileName ++ writeInt64 3 m.size ++ writeInt32 4 m.offset ++
    writeBytes 5 m.chunk ++ writeBool 6 m.pml ++ writeText 7 m.sha1 ++ writeText 8 m.sha256 ++
    writeTexts 9 m.tags ++ writeBool 10 m.bulk ++ writeBool 11 m.feedback ++
    writeBool 12 m.verbose ++ writeBool 13 m.activeContent

/-- The number of bytes of a message. -/
def encodedLength (m : ClientMessage) : Nat :=
  sizeInt32 1 m.stage + sizeText 2 m.fileName + sizeInt64 3 m.size + sizeInt32 4 m.offset +
    sizeBytes 5 m.chunk + sizeBool 6 m.pml + sizeText 7 m.sha1 + sizeText 8 m.sha256 +
    sizeTexts 9 m.tags + sizeBool 10 m.bulk + sizeBool 11 m.feedback +
    sizeBool 12 m.verbose + sizeBool 13 m.activeContent

/-- The message after one more record. The last record of a field counts, tags are collected, and
unknown fields are passed over. -/
def add (m : ClientMessage) (record : Record) : Option ClientMessage :=
  let payload := record.payload
  match record.number with
  | 1 => payload.int32?.map fun x => { m with stage := x }
  | 2 => payload.text?.map fun s => { m with fileName := s }
  | 3 => payload.number?.map fun n => { m with size := int64Of n }
  | 4 => payload.int32?.map fun x => { m with offset := x }
  | 5 => payload.bytes?.map fun bytes => { m with chunk := bytes }
  | 6 => payload.bool?.map fun b => { m with pml := b }
  | 7 => payload.text?.map fun s => { m with sha1 := s }
  | 8 => payload.text?.map fun s => { m with sha256 := s }
  | 9 => payload.text?.map fun s => { m with tags := m.tags ++ [s] }
  | 10 => payload.bool?.map fun b => { m with bulk := b }
  | 11 => payload.bool?.map fun b => { m with feedback := b }
  | 12 => payload.bool?.map fun b => { m with verbose := b }
  | 13 => payload.bool?.map fun b => { m with activeContent := b }
  | _ => some m

/-- The message that `bytes` state. -/
def decode? (bytes : Bytes) : Option ClientMessage :=
  (Record.readAll bytes).bind fun records => records.foldlM add {}

end ClientMessage

end MalwareScan.Wire
