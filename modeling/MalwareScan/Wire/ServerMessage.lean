import MalwareScan.Wire.Record
import MalwareScan.Wire.Stage

/-!
# Messages of the scanner

The scanner asks for ranges of the content, one or many at a time, and ends the scan with its
verdict. `ServerMessage.ranges` says which ranges a message asks for.
-/

namespace MalwareScan.Wire

/-- A message of the scanner. -/
structure ServerMessage where
  stage : Int32 := 0
  command : Int32 := 0
  offset : Int32 := 0
  length : Int32 := 0
  result : String := ""
  bulkOffset : List Int32 := []
  bulkLength : List Int32 := []
deriving DecidableEq

/-- A range of the content. -/
structure ByteRange where
  offset : Int32
  length : Int32
deriving DecidableEq, Repr

namespace ByteRange

/-- Where the range starts. -/
def start (range : ByteRange) : UInt64 :=
  range.offset.toInt64.toUInt64

/-- How many bytes the range has. -/
def size (range : ByteRange) : UInt64 :=
  range.length.toInt64.toUInt64

/-- The range has no bytes. -/
def isEmpty (range : ByteRange) : Bool :=
  range.length = 0

/-- Neither the offset nor the length is negative. -/
def isValid (range : ByteRange) : Bool :=
  0 ≤ range.offset && 0 ≤ range.length

end ByteRange

/-- Why the ranges of a message cannot be served. -/
inductive RangeFault where
  | unequalCounts (offsets lengths : Nat)
  | negative (range : ByteRange)
deriving DecidableEq, Repr

/-- The text of a fault. -/
def RangeFault.message : RangeFault → String
  | unequalCounts offsets lengths =>
    "bulk RETR has " ++ toString offsets ++ " offsets but " ++ toString lengths ++ " lengths"
  | negative range =>
    "invalid RETR range offset=" ++ toString range.offset ++ " length=" ++ toString range.length

namespace ServerMessage

/-- A request for one range. -/
def retr (offset length : Int32) : ServerMessage :=
  { stage := Stage.run.number, command := Command.retr.number, offset, length }

/-- A request for many ranges. -/
def bulkRetr (ranges : List (Int32 × Int32)) : ServerMessage :=
  { stage := Stage.run.number, command := Command.retr.number
    bulkOffset := ranges.map Prod.fst, bulkLength := ranges.map Prod.snd }

/-- The end of a scan, with its result. -/
def quit (result : String) : ServerMessage :=
  { stage := Stage.fini.number, command := Command.quit.number, result }

/-- The ranges of a message before their signs are looked at. Lists of ranges win over the single
range, and a single range that is all zero asks for nothing. -/
def rawRanges (m : ServerMessage) : Except RangeFault (List ByteRange) :=
  if m.bulkOffset.isEmpty ∧ m.bulkLength.isEmpty then
    if m.offset = 0 ∧ m.length = 0 then .ok [] else .ok [⟨m.offset, m.length⟩]
  else if m.bulkOffset.length ≠ m.bulkLength.length then
    .error (.unequalCounts m.bulkOffset.length m.bulkLength.length)
  else .ok (List.zipWith ByteRange.mk m.bulkOffset m.bulkLength)

/-- The ranges that a message asks for. One negative number spoils them all. -/
def ranges (m : ServerMessage) : Except RangeFault (List ByteRange) :=
  m.rawRanges.bind fun ranges =>
    match ranges.find? fun range => !range.isValid with
    | some range => .error (.negative range)
    | none => .ok ranges

/-- The bytes of a message. -/
def encode (m : ServerMessage) : Bytes :=
  writeInt32 1 m.stage ++ writeInt32 2 m.command ++ writeInt32 3 m.offset ++
    writeInt32 4 m.length ++ writeText 5 m.result ++ writeInt32s 6 m.bulkOffset ++
    writeInt32s 7 m.bulkLength

/-- The number of bytes of a message. -/
def encodedLength (m : ServerMessage) : Nat :=
  sizeInt32 1 m.stage + sizeInt32 2 m.command + sizeInt32 3 m.offset + sizeInt32 4 m.length +
    sizeText 5 m.result + sizeInt32s 6 m.bulkOffset + sizeInt32s 7 m.bulkLength

/-- The message after one more record. The last record of a scalar field counts, lists are appended,
and unknown fields are passed over. -/
def add (m : ServerMessage) (record : Record) : Option ServerMessage :=
  let payload := record.payload
  match record.number with
  | 1 => payload.int32?.map fun x => { m with stage := x }
  | 2 => payload.int32?.map fun x => { m with command := x }
  | 3 => payload.int32?.map fun x => { m with offset := x }
  | 4 => payload.int32?.map fun x => { m with length := x }
  | 5 => payload.text?.map fun s => { m with result := s }
  | 6 => payload.int32s?.map fun xs => { m with bulkOffset := m.bulkOffset ++ xs }
  | 7 => payload.int32s?.map fun xs => { m with bulkLength := m.bulkLength ++ xs }
  | _ => some m

/-- The message that `bytes` state. -/
def decode? (bytes : Bytes) : Option ServerMessage :=
  (Record.readAll bytes).bind fun records => records.foldlM add {}

end ServerMessage

end MalwareScan.Wire
