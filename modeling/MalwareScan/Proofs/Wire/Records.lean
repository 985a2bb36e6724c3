import MalwareScan.Proofs.Wire.Varints
import MalwareScan.Wire.Record

/-!
# Reading records

A message is read record by record. Bytes spell records (`Record.Spells`) if they are read as these
records whatever follows them; what spells records can be put together. A record is never longer
than the bytes it was read from (`Record.readAll_bounds`).
-/

namespace MalwareScan.Wire

variable {number : Nat} {type : WireType} {bytes front rest : Bytes}

/-- The numbers that a field may have. -/
def IsFieldNumber (number : Nat) : Prop :=
  0 < number ∧ number < 536870912

instance (number : Nat) : Decidable (IsFieldNumber number) :=
  inferInstanceAs (Decidable (_ ∧ _))

/-! ## Keys and bytes -/

/-- The number of a wire type has three bits. -/
theorem WireType.number_lt (type : WireType) : type.number < 8 := by
  cases type <;> decide

/-- A wire type is found by its number. -/
theorem WireType.ofNumber?_number (type : WireType) : ofNumber? type.number = some type := by
  cases type <;> rfl

/-- A written key is read back. -/
theorem readKey_write (h : IsFieldNumber number) (type : WireType) (rest : Bytes) :
    readKey (Varint.write (key number type) ++ rest) = some (number, type, rest) := by
  obtain ⟨hpos, hlt⟩ := h
  have htype := type.number_lt
  have hkey : number * 8 + type.number < UInt64.size := by
    have hsize : UInt64.size = 18446744073709551616 := rfl
    omega
  have hlow : (number * 8 + type.number) % 8 = type.number := by omega
  have hhigh : (number * 8 + type.number) / 8 = number := by omega
  have hbounds : number * 8 + type.number < 4294967296 ∧ 0 < number := by omega
  simp only [readKey, key, Varint.read_write hkey, Option.bind_eq_bind, Option.bind_some, hlow,
    hhigh, WireType.ofNumber?_number, if_pos hbounds]

/-- A key has at least one byte. -/
theorem length_lt_of_readKey (h : readKey bytes = some (number, type, rest)) :
    rest.length < bytes.length := by
  simp only [readKey, Option.bind_eq_bind, Option.bind_eq_some_iff] at h
  obtain ⟨⟨k, rest'⟩, hread, type', htype, hbounds⟩ := h
  split at hbounds
  · cases hbounds
    have hsize : Varint.size k + rest'.length ≤ bytes.length := Varint.size_add_length_le hread
    have hpos := Varint.size_pos k
    exact Nat.lt_of_lt_of_le (Nat.lt_add_of_pos_left hpos) hsize
  · cases hbounds

/-- Bytes are split off from those behind them. -/
theorem splitBytes_append (bytes rest : Bytes) :
    splitBytes bytes.length (bytes ++ rest) = some (bytes, rest) := by
  simp [splitBytes]

/-- What is split off has the length that was asked for, and the rest follows it. -/
theorem splitBytes_eq_some {count : Nat} (h : splitBytes count bytes = some (front, rest)) :
    front.length = count ∧ front.length + rest.length = bytes.length := by
  simp only [splitBytes] at h
  split at h
  · rename_i hlength
    cases h
    refine ⟨hlength, ?_⟩
    rw [← List.length_append, List.take_append_drop]
  · cases h

/-! ## Payloads -/

/-- How many bytes a payload takes at least. -/
def Payload.size : Payload → Nat
  | varint value => Varint.size value
  | delimited bytes => bytes.length
  | fixed64 _ | group | fixed32 _ => 0

/-- The length of a payload can be written. -/
def Payload.Fits : Payload → Prop
  | delimited bytes => bytes.length < UInt64.size
  | _ => True

/-- Payloads are read from at least as many bytes as they take, and their lengths were written as
varints. What is skipped as a group is behind its rest as well. -/
theorem readPayload_bounds (fuel : Nat) :
    (∀ limit number type bytes payload rest,
      readPayload fuel limit number type bytes = some (payload, rest) →
        payload.size + rest.length ≤ bytes.length ∧ payload.Fits) ∧
    (∀ limit number bytes rest,
      skipGroup fuel limit number bytes = some rest → rest.length ≤ bytes.length) := by
  induction fuel with
  | zero => exact ⟨fun _ _ _ _ _ _ h => by simp [readPayload] at h, fun _ _ _ _ h => by
      simp [skipGroup] at h⟩
  | succ fuel ih =>
      -- Each of the two readers calls the other one with less fuel.
      obtain ⟨ihpayload, ihgroup⟩ := ih
      refine ⟨fun limit number type bytes payload rest h => ?_, fun limit number bytes rest h => ?_⟩
      · cases limit with
        | zero => simp [readPayload] at h
        | succ limit =>
            cases type <;> simp only [readPayload, Option.bind_eq_bind, Option.bind_eq_some_iff,
              Option.some.injEq, Prod.mk.injEq, Prod.exists, reduceCtorEq] at h
            case varint =>
              obtain ⟨value, rest', hread, rfl, rfl⟩ := h
              exact ⟨Varint.size_add_length_le hread, trivial⟩
            case fixed64 | fixed32 =>
              obtain ⟨front, rest', hsplit, rfl, rfl⟩ := h
              have hlength := (splitBytes_eq_some hsplit).2
              refine ⟨?_, trivial⟩
              simp only [Payload.size]
              omega
            case delimited =>
              obtain ⟨count, rest', hread, front, rest'', hsplit, rfl, rfl⟩ := h
              obtain ⟨hcount, hlength⟩ := splitBytes_eq_some hsplit
              have hsize := Varint.size_add_length_le hread
              have hlt := Varint.lt_of_read hread
              refine ⟨?_, by rwa [Payload.Fits, hcount]⟩
              simp only [Payload.size]
              omega
            case startGroup =>
              obtain ⟨rest', hskip, rfl, rfl⟩ := h
              have hlength := ihgroup _ _ _ _ hskip
              refine ⟨?_, trivial⟩
              simp only [Payload.size]
              omega
      · simp only [skipGroup, Option.bind_eq_bind, Option.bind_eq_some_iff, Prod.exists] at h
        obtain ⟨inner, type, rest', hkey, h⟩ := h
        have hlt := length_lt_of_readKey hkey
        split at h
        · split at h
          · cases h
            omega
          · cases h
        · simp only [Option.bind_eq_some_iff, Prod.exists] at h
          obtain ⟨payload, rest'', hpayload, hskip⟩ := h
          have hsize := (ihpayload _ _ _ _ _ _ hpayload).1
          have hlength := ihgroup _ _ _ _ hskip
          omega

namespace Record

variable {record : Record} {records more : List Record} {fuel : Nat}

/-! ## Records -/

/-- A record has at least one byte more than its payload takes. -/
theorem read_bounds (h : read bytes = some (record, rest)) :
    record.payload.size + rest.length < bytes.length ∧ record.payload.Fits := by
  simp only [read, Option.bind_eq_bind, Option.bind_eq_some_iff, Option.some.injEq, Prod.mk.injEq,
    Prod.exists] at h
  obtain ⟨number, type, rest', hkey, payload, rest'', hpayload, rfl, rfl⟩ := h
  have hlt := length_lt_of_readKey hkey
  obtain ⟨hsize, hfits⟩ := (readPayload_bounds _).1 _ _ _ _ _ _ hpayload
  exact ⟨Nat.lt_of_le_of_lt hsize hlt, hfits⟩

/-- With fuel the first record is read, and then the others. -/
theorem readFuel_cons (fuel : Nat) (b : UInt8) (bytes : Bytes) :
    readFuel (fuel + 1) (b :: bytes) =
      (read (b :: bytes)).bind fun result => (readFuel fuel result.2).map (result.1 :: ·) := by
  rw [readFuel]
  · refine Option.bind_congr fun result _ => ?_
    cases hrest : readFuel fuel result.2 <;> simp [hrest]
  · exact List.cons_ne_nil b bytes

/-- Fuel beyond the number of bytes does not matter. -/
theorem readFuel_eq (h : bytes.length ≤ fuel) : readFuel fuel bytes = readAll bytes := by
  induction fuel using Nat.strongRecOn generalizing bytes with
  | _ fuel ih =>
      cases bytes with
      | nil => cases fuel <;> rfl
      | cons b tail =>
          cases fuel with
          | zero => cases h
          | succ fuel =>
              rw [readAll, List.length_cons, readFuel_cons, readFuel_cons]
              rw [List.length_cons] at h
              refine Option.bind_congr fun ⟨record, rest⟩ hread => ?_
              -- The rest is shorter, so that both amounts of fuel are enough for it.
              have hlt := (read_bounds hread).1
              rw [List.length_cons] at hlt
              have hfuel : readFuel fuel rest = readAll rest := ih fuel (by omega) (by omega)
              have hlength : readFuel tail.length rest = readAll rest :=
                ih tail.length (by omega) (by omega)
              rw [hfuel, hlength]

/-- A message begins with its first record. -/
theorem readAll_of_read (h : read bytes = some (record, rest)) :
    readAll bytes = (readAll rest).map (record :: ·) := by
  cases bytes with
  | nil => cases h
  | cons b tail =>
      have hlt := (read_bounds h).1
      rw [List.length_cons] at hlt
      have hrest : readFuel tail.length rest = readAll rest := readFuel_eq (by omega)
      rw [readAll, List.length_cons, readFuel_cons, h, Option.bind_some, hrest]

/-- The payloads of a message take no more bytes than it has, and their lengths can be written. -/
theorem readAll_bounds (h : readAll bytes = some records) :
    (records.map fun record => record.payload.size).sum ≤ bytes.length ∧
      ∀ record ∈ records, record.payload.Fits := by
  induction records generalizing bytes with
  | nil => simp
  | cons record records ih =>
      cases hread : read bytes with
      | none =>
          cases bytes with
          | nil => cases h
          | cons b tail =>
              rw [readAll, List.length_cons, readFuel_cons, hread] at h
              cases h
      | some result =>
          obtain ⟨first, rest⟩ := result
          rw [readAll_of_read hread, Option.map_eq_some_iff] at h
          obtain ⟨others, hothers, heq⟩ := h
          cases heq
          obtain ⟨hsize, hfits⟩ := read_bounds hread
          obtain ⟨hsum, hall⟩ := ih hothers
          refine ⟨?_, List.forall_mem_cons.2 ⟨hfits, hall⟩⟩
          rw [List.map_cons, List.sum_cons]
          omega

/-! ## Bytes that spell records -/

/-- These bytes are read as these records, whatever follows them. -/
def Spells (bytes : Bytes) (records : List Record) : Prop :=
  ∀ rest, readAll (bytes ++ rest) = (readAll rest).map (records ++ ·)

/-- No bytes spell no records. -/
theorem spells_nil : Spells [] [] := by
  intro rest
  simp

/-- Bytes that spell records can be put together. -/
theorem Spells.append (h : Spells front records) (hmore : Spells bytes more) :
    Spells (front ++ bytes) (records ++ more) := by
  intro rest
  rw [List.append_assoc, h, hmore, Option.map_map]
  congr 1
  funext others
  simp

/-- What is always read as one record spells it. -/
theorem spells_of_read (h : ∀ rest, read (bytes ++ rest) = some (record, rest)) :
    Spells bytes [record] := fun rest =>
  readAll_of_read (h rest)

/-- A message that spells records is read as these. -/
theorem Spells.readAll_eq (h : Spells bytes records) : readAll bytes = some records := by
  have hempty := h []
  rw [List.append_nil] at hempty
  rw [hempty]
  simp [readAll, readFuel]

/-- A written varint spells its record. -/
theorem spells_writeVarint (hnumber : IsFieldNumber number) {value : Nat}
    (hvalue : value < UInt64.size) :
    Spells (writeVarint number value) [⟨number, .varint value⟩] := by
  refine spells_of_read fun rest => ?_
  have hfuel : (if WireType.varint = .startGroup then 2 * (Varint.write value ++ rest).length + 2
      else 1) = 1 := if_neg (by decide)
  rw [writeVarint, List.append_assoc, read, readKey_write hnumber]
  simp only [Option.bind_eq_bind, Option.bind_some, hfuel, groupLimit, readPayload,
    Varint.read_write hvalue]

/-- Written bytes spell their record. -/
theorem spells_writeDelimited (hnumber : IsFieldNumber number)
    (hbytes : bytes.length < UInt64.size) :
    Spells (writeDelimited number bytes) [⟨number, .delimited bytes⟩] := by
  refine spells_of_read fun rest => ?_
  have hfuel : (if WireType.delimited = .startGroup then
      2 * (Varint.write bytes.length ++ (bytes ++ rest)).length + 2 else 1) = 1 :=
    if_neg (by decide)
  rw [writeDelimited, List.append_assoc, List.append_assoc, read, readKey_write hnumber]
  simp only [Option.bind_eq_bind, Option.bind_some, hfuel, groupLimit, readPayload,
    Varint.read_write hbytes, splitBytes_append]

end Record

end MalwareScan.Wire
