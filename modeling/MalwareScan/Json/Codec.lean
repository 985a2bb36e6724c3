import MalwareScan.Json.Reading

/-!
# Codecs

A codec says how a type of values is written as JSON and how it is read from a document. A record is
a list of fields: it is written as an object with the fields in order, and read either from an
object, whose unknown members are skipped, or from an array of the values of its fields.

Reading walks the document in order and stops at the first fault.
-/

namespace MalwareScan.Json

/-- How values of a type are read and written. -/
structure Codec (α : Type) where
  decode : Reading → Except Fault α
  encode : α → Json

/-- The fault of a value that stands where `expected` should. -/
def Reading.unsuited (reading : Reading) (expected : String) : Fault :=
  let wrong (found : Found) : Fault := .misfit (.wrongType found expected)
  match reading with
  | .null => wrong .null
  | .boolean b => wrong (.boolean b)
  | .number (.integer n) => wrong (.integer n)
  | .number (.decimal d) =>
    match d.toFloat? with
    | some x => wrong (.float (String.ofList (floatChars x)))
    | none => .unreadable .malformed
  | .string (.ok text) => wrong (.string text)
  | .string (.error breach) => .unreadable breach
  | .array _ _ => wrong .sequence
  | .sequence _ => wrong .sequence
  | .object _ _ => wrong .map
  | .broken cut => .unreadable cut.used

/-- The fault of a cut, met by a reader who uses the value. -/
def finished : Option Cut → Except Fault Unit
  | none => .ok ()
  | some cut => .error (.unreadable cut.used)

namespace Codec

/-- Texts. -/
def text : Codec String where
  decode
    | .string (.ok s) => .ok s
    | other => .error (other.unsuited "a string")
  encode := Json.string

/-- Truth values. -/
def boolean : Codec Bool where
  decode
    | .boolean b => .ok b
    | other => .error (other.unsuited "a boolean")
  encode := Json.boolean

/-- The integers from `low` to `high`, known in messages as `name`, as the type `α`. -/
def integer {α : Type} (name : String) (low high : Int) (ofInt : Int → α) (toInt : α → Int) :
    Codec α where
  decode
    | .number (.integer n) =>
      if low ≤ n ∧ n ≤ high then .ok (ofInt n) else .error (.misfit (.outOfRange n name))
    | other => .error (other.unsuited name)
  encode x := .number (.integer (toInt x))

/-- Signed words of 32 bits. -/
def int32 : Codec Int32 :=
  integer "i32" (-2147483648) 2147483647 Int32.ofInt Int32.toInt

/-- Signed words of 64 bits. -/
def int64 : Codec Int64 :=
  integer "i64" (-9223372036854775808) 9223372036854775807 Int64.ofInt Int64.toInt

/-- Words of 32 bits. -/
def uint32 : Codec UInt32 :=
  integer "u32" 0 4294967295 (fun n => UInt32.ofNat n.toNat) (fun w => w.toNat)

/-- Words of 64 bits. -/
def uint64 : Codec UInt64 :=
  integer "u64" 0 18446744073709551615 (fun n => UInt64.ofNat n.toNat) (fun w => w.toNat)

/-- Values that may be absent: `null` stands for absence. -/
def option {α : Type} (codec : Codec α) : Codec (Option α) where
  decode
    | .null => .ok none
    | other => (codec.decode other).map some
  encode
    | none => .null
    | some x => codec.encode x

/-- Lists. -/
def list {α : Type} (codec : Codec α) : Codec (List α) where
  decode
    | .array items cut => do
      let values ← items.mapM codec.decode
      finished cut
      .ok values
    | .sequence items => items.mapM codec.decode
    | other => .error (other.unsuited "a sequence")
  encode values := .array (values.map codec.encode)

end Codec

/-! ## Records -/

/-- What a missing field means: a fault; a value, if the record is an object; or a value wherever it
is missing. -/
inductive Absence (α : Type) where
  | required
  | unnamed (value : α)
  | always (value : α)

/-- The value of a field that no member of an object names. -/
def Absence.inObject {α : Type} (absent : Absence α) (name : String) : Except Fault α :=
  match absent with
  | .required => .error (.misfit (.missing name))
  | .unnamed value => .ok value
  | .always value => .ok value

/-- The value of a field that an array is too short for. -/
def Absence.inArray? {α : Type} : Absence α → Option α
  | .always value => some value
  | _ => none

/-- A field of the records of type `σ`. -/
structure Field (σ α : Type) where
  name : String
  codec : Codec α
  get : σ → α
  absent : Absence α := .required

/-- The fields of the records of type `σ`, in order. `τ` is the type of their values together, and
`ρ` the type of what is known of these values while a document is read. -/
inductive Fields (σ : Type) : Type → Type → Type 1 where
  | nil : Fields σ Unit Unit
  | cons {α τ ρ : Type} (field : Field σ α) (rest : Fields σ τ ρ) : Fields σ (α × τ) (Option α × ρ)

namespace Fields

variable {σ : Type}

/-- Nothing is known. -/
def empty {τ ρ : Type} : Fields σ τ ρ → ρ
  | .nil => ()
  | .cons _ rest => (none, rest.empty)

/-- How many fields there are. -/
def size {τ ρ : Type} : Fields σ τ ρ → Nat
  | .nil => 0
  | .cons _ rest => rest.size + 1

/-- What is known after one more member. A field must not be named twice, and a member that names no
field is skipped. -/
def put {τ ρ : Type} (key : String) (value : Reading) : Fields σ τ ρ → ρ → Except Fault ρ
  | .nil, () =>
    match value.cut? with
    | none => .ok ()
    | some cut => .error (.unreadable cut.skipped)
  | .cons field rest, (slot, slots) =>
    if key = field.name then
      match slot with
      | some _ => .error (.misfit (.duplicate field.name))
      | none => (field.codec.decode value).map fun x => (some x, slots)
    else (rest.put key value slots).map fun slots => (slot, slots)

/-- What is known after the given members. -/
def putAll {τ ρ : Type} (fields : Fields σ τ ρ) :
    List (Except Breach String × Reading) → ρ → Except Fault ρ
  | [], slots => .ok slots
  | (.error breach, _) :: _, _ => .error (.unreadable breach)
  | (.ok key, value) :: members, slots =>
    match fields.put key value slots with
    | .ok slots => fields.putAll members slots
    | .error fault => .error fault

/-- The values of all fields after the last member. -/
def complete {τ ρ : Type} : Fields σ τ ρ → ρ → Except Fault τ
  | .nil, () => .ok ()
  | .cons field rest, (slot, slots) => do
    let x ← match slot with
      | some x => .ok x
      | none => field.absent.inObject field.name
    let values ← rest.complete slots
    .ok (x, values)

/-- The values of all fields from the items of an array, of which `count` fields came before. -/
def ofItems {τ ρ : Type} (record : String) (total : Nat) (cut : Option Cut) :
    Fields σ τ ρ → Nat → List Reading → Except Fault τ
  | .nil, _, [] => finished cut
  | .nil, _, _ :: _ => .error (.unreadable .malformed)
  | .cons field rest, count, item :: items => do
    let x ← field.codec.decode item
    let values ← ofItems record total cut rest (count + 1) items
    .ok (x, values)
  | .cons field rest, count, [] => do
    finished cut
    match field.absent.inArray? with
    | some x =>
      let values ← ofItems record total cut rest (count + 1) []
      .ok (x, values)
    | none => .error (.misfit (.wrongCount count record total))

/-- The members of a record. -/
def members {τ ρ : Type} : Fields σ τ ρ → σ → List (String × Json)
  | .nil, _ => []
  | .cons field rest, x => (field.name, field.codec.encode (field.get x)) :: rest.members x

/-- The values of the fields of a record. -/
def values {τ ρ : Type} : Fields σ τ ρ → σ → τ
  | .nil, _ => ()
  | .cons field rest, x => (field.get x, rest.values x)

end Fields

/-- The records named `name` with the given fields. -/
def Codec.record {σ τ ρ : Type} (name : String) (fields : Fields σ τ ρ) (make : τ → σ) :
    Codec σ where
  decode
    | .object members cut => do
      let slots ← fields.putAll members fields.empty
      finished cut
      let values ← fields.complete slots
      .ok (make values)
    | .array items cut => (fields.ofItems name fields.size cut 0 items).map make
    | .sequence items =>
      (fields.ofItems name fields.size none 0 (items.take fields.size)).map make
    | other => .error (other.unsuited ("struct " ++ name))
  encode x := .object (fields.members x)

/-- The value of a whole document. -/
def Codec.ofDocument {α : Type} (codec : Codec α) (document : Document) : Except Fault α := do
  let value ← codec.decode document.value
  if document.trailing then .error (.unreadable .malformed) else .ok value

/-- The value that `text` states. -/
def Codec.read {α : Type} (codec : Codec α) (text : String) : Except Fault α :=
  codec.ofDocument (Document.ofText text)

/-- The compact text of a value. -/
def Codec.write {α : Type} (codec : Codec α) (value : α) : String :=
  (codec.encode value).render

end MalwareScan.Json
