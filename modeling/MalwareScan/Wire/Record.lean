import MalwareScan.Wire.Varint
import MalwareScan.Text.Utf8

/-!
# Records

A wire message is a sequence of records: each has a field number and a payload whose form the wire
type names. `Record.readAll` splits a message into its records; messages are then read record by
record, so that fields may come in any order and unknown ones are passed over.
-/

namespace MalwareScan.Wire

/-- What a record carries. A group is balanced and its content is of no interest. -/
inductive Payload where
  | varint (value : Nat)
  | fixed64 (bytes : Bytes)
  | delimited (bytes : Bytes)
  | group
  | fixed32 (bytes : Bytes)
deriving DecidableEq

/-- One record of a message. -/
structure Record where
  number : Nat
  payload : Payload
deriving DecidableEq

/-- How deep groups may be nested. -/
def groupLimit : Nat := 100

/-- The wire types. -/
inductive WireType where
  | varint
  | fixed64
  | delimited
  | startGroup
  | endGroup
  | fixed32
deriving DecidableEq

/-- The number of a wire type. -/
def WireType.number : WireType → Nat
  | varint => 0
  | fixed64 => 1
  | delimited => 2
  | startGroup => 3
  | endGroup => 4
  | fixed32 => 5

/-- The wire type with a number. -/
def WireType.ofNumber? : Nat → Option WireType
  | 0 => some varint
  | 1 => some fixed64
  | 2 => some delimited
  | 3 => some startGroup
  | 4 => some endGroup
  | 5 => some fixed32
  | _ => none

/-- The key that stands before a payload. -/
def key (number : Nat) (type : WireType) : Nat :=
  number * 8 + type.number

/-- The field number and the wire type at the beginning of `bytes`. Keys have 32 bits, and there
is no field 0. -/
def readKey (bytes : Bytes) : Option (Nat × WireType × Bytes) := do
  let (key, rest) ← Varint.read bytes
  let type ← WireType.ofNumber? (key % 8)
  if key < 4294967296 ∧ 0 < key / 8 then some (key / 8, type, rest) else none

/-- The first `count` bytes and those that follow, if there are so many. -/
def splitBytes (count : Nat) (bytes : Bytes) : Option (Bytes × Bytes) :=
  let front := bytes.take count
  if front.length = count then some (front, bytes.drop count) else none

mutual

/-- The payload of the field `number`, and what follows it. Groups may be nested `limit` deep. -/
def readPayload : (fuel limit number : Nat) → WireType → Bytes → Option (Payload × Bytes)
  | 0, _, _, _, _ => none
  | _ + 1, 0, _, _, _ => none
  | _ + 1, _ + 1, _, .varint, bytes => do
    let (value, rest) ← Varint.read bytes
    some (.varint value, rest)
  | _ + 1, _ + 1, _, .fixed64, bytes => do
    let (front, rest) ← splitBytes 8 bytes
    some (.fixed64 front, rest)
  | _ + 1, _ + 1, _, .delimited, bytes => do
    let (count, rest) ← Varint.read bytes
    let (front, rest) ← splitBytes count rest
    some (.delimited front, rest)
  | fuel + 1, limit + 1, number, .startGroup, bytes => do
    let rest ← skipGroup fuel limit number bytes
    some (.group, rest)
  | _ + 1, _ + 1, _, .endGroup, _ => none
  | _ + 1, _ + 1, _, .fixed32, bytes => do
    let (front, rest) ← splitBytes 4 bytes
    some (.fixed32 front, rest)

/-- What follows the end of the group `number`. -/
def skipGroup : (fuel limit number : Nat) → Bytes → Option Bytes
  | 0, _, _, _ => none
  | fuel + 1, limit, number, bytes => do
    let (inner, type, rest) ← readKey bytes
    if type = .endGroup then
      if inner = number then some rest else none
    else
      let (_, rest) ← readPayload fuel limit inner type rest
      skipGroup fuel limit number rest

end

namespace Record

/-- The record at the beginning of `bytes`, and what follows it. A group takes at most two steps for
each of its bytes, and any other payload is read in one. -/
def read (bytes : Bytes) : Option (Record × Bytes) := do
  let (number, type, rest) ← readKey bytes
  let fuel := if type = .startGroup then 2 * rest.length + 2 else 1
  let (payload, rest) ← readPayload fuel groupLimit number type rest
  some (⟨number, payload⟩, rest)

/-- The records of a message, if `fuel` is at least their number. -/
def readFuel : Nat → Bytes → Option (List Record)
  | _, [] => some []
  | 0, _ :: _ => none
  | fuel + 1, bytes => do
    let (record, rest) ← read bytes
    let records ← readFuel fuel rest
    some (record :: records)

/-- The records of a message. Each has at least one byte. -/
def readAll (bytes : Bytes) : Option (List Record) :=
  readFuel bytes.length bytes

end Record

/-! ## Fields

A field with its default value is not written. -/

/-- A record whose payload is a varint. -/
def writeVarint (number value : Nat) : Bytes :=
  Varint.write (key number .varint) ++ Varint.write value

/-- A record whose payload is a sequence of bytes. -/
def writeDelimited (number : Nat) (bytes : Bytes) : Bytes :=
  Varint.write (key number .delimited) ++ Varint.write bytes.length ++ bytes

/-- The number that stands for a signed word of 32 bits: that of its extension to 64 bits. -/
def int32Number (x : Int32) : Nat :=
  x.toInt64.toUInt64.toNat

/-- The signed word of the low 32 bits of a number. -/
def int32Of (n : Nat) : Int32 :=
  Int32.ofNat n

/-- The number that stands for a signed word of 64 bits. -/
def int64Number (x : Int64) : Nat :=
  x.toUInt64.toNat

/-- The signed word of the low 64 bits of a number. -/
def int64Of (n : Nat) : Int64 :=
  Int64.ofNat n

/-- A field of type `int32`. -/
def writeInt32 (number : Nat) (x : Int32) : Bytes :=
  if x = 0 then [] else writeVarint number (int32Number x)

/-- A field of type `int64`. -/
def writeInt64 (number : Nat) (x : Int64) : Bytes :=
  if x = 0 then [] else writeVarint number (int64Number x)

/-- A field of type `bool`. -/
def writeBool (number : Nat) (b : Bool) : Bytes :=
  if b then writeVarint number 1 else []

/-- A field of type `bytes`. -/
def writeBytes (number : Nat) (bytes : Bytes) : Bytes :=
  if bytes.isEmpty then [] else writeDelimited number bytes

/-- A field of type `string`. -/
def writeText (number : Nat) (s : String) : Bytes :=
  writeBytes number (Text.Utf8.encode s)

/-- A repeated field of type `string`. -/
def writeTexts (number : Nat) (texts : List String) : Bytes :=
  texts.flatMap fun s => writeDelimited number (Text.Utf8.encode s)

/-- The varints of words, one after the other. -/
def packInt32s (xs : List Int32) : Bytes :=
  xs.flatMap fun x => Varint.write (int32Number x)

/-- A repeated field of type `int32`, packed into one record. -/
def writeInt32s (number : Nat) (xs : List Int32) : Bytes :=
  if xs.isEmpty then [] else writeDelimited number (packInt32s xs)

/-! ## Lengths

The length of a message is computed without writing it. -/

/-- The length of a record whose payload is a varint. -/
def sizeVarint (number value : Nat) : Nat :=
  Varint.size (key number .varint) + Varint.size value

/-- The length of a record with `count` bytes of payload. -/
def sizeDelimited (number count : Nat) : Nat :=
  Varint.size (key number .delimited) + Varint.size count + count

/-- The length of a field of type `int32`. -/
def sizeInt32 (number : Nat) (x : Int32) : Nat :=
  if x = 0 then 0 else sizeVarint number (int32Number x)

/-- The length of a field of type `int64`. -/
def sizeInt64 (number : Nat) (x : Int64) : Nat :=
  if x = 0 then 0 else sizeVarint number (int64Number x)

/-- The length of a field of type `bool`. -/
def sizeBool (number : Nat) (b : Bool) : Nat :=
  if b then sizeVarint number 1 else 0

/-- The length of a field of type `bytes`. -/
def sizeBytes (number : Nat) (bytes : Bytes) : Nat :=
  if bytes.isEmpty then 0 else sizeDelimited number bytes.length

/-- The length of a field of type `string`. -/
def sizeText (number : Nat) (s : String) : Nat :=
  if s.utf8ByteSize = 0 then 0 else sizeDelimited number s.utf8ByteSize

/-- The length of a repeated field of type `string`. -/
def sizeTexts (number : Nat) (texts : List String) : Nat :=
  texts.foldr (fun s size => sizeDelimited number s.utf8ByteSize + size) 0

/-- The length of a repeated field of type `int32`. -/
def sizeInt32s (number : Nat) (xs : List Int32) : Nat :=
  if xs.isEmpty then 0
  else sizeDelimited number (xs.foldr (fun x size => Varint.size (int32Number x) + size) 0)

/-! ## Payloads -/

namespace Payload

/-- The number of a varint. -/
def number? : Payload → Option Nat
  | .varint n => some n
  | _ => none

/-- The bytes of a delimited payload. -/
def bytes? : Payload → Option Bytes
  | .delimited bytes => some bytes
  | _ => none

/-- The text of a delimited payload. -/
def text? (payload : Payload) : Option String :=
  payload.bytes?.bind Text.Utf8.decode?

/-- The word of a varint. -/
def int32? (payload : Payload) : Option Int32 :=
  payload.number?.map int32Of

/-- The truth value of a varint. -/
def bool? (payload : Payload) : Option Bool :=
  payload.number?.map fun n => n != 0

/-- The words of a packed payload, if `fuel` is at least their number. -/
def unpackFuel : Nat → Bytes → Option (List Int32)
  | _, [] => some []
  | 0, _ :: _ => none
  | fuel + 1, bytes => do
    let (n, rest) ← Varint.read bytes
    let xs ← unpackFuel fuel rest
    some (int32Of n :: xs)

/-- The words that one record of a repeated field adds: a single one, or those of a packed
payload. -/
def int32s? : Payload → Option (List Int32)
  | .varint n => some [int32Of n]
  | .delimited bytes => unpackFuel bytes.length bytes
  | _ => none

end Payload

end MalwareScan.Wire
