import MalwareScan.Proofs.Wire.Records

/-!
# Spellings of records

On the wire one number has many spellings, because a varint may be padded with high bits that are
zero. `Varint.IsSpelling` and `Record.IsSpelling` state which bytes spell a number and a record,
without the readers. A number is read exactly from its spellings (`Varint.read_eq_some_iff`), and
all spellings of a record are read as this record (`Record.IsSpelling.spells`).
-/

namespace MalwareScan.Wire

namespace Varint

/-- The bytes have the bits of a number, seven in each byte and the low ones first. The high bit
of a byte says that another one follows. -/
inductive HasBits : Bytes → Nat → Prop where
  | last {b : UInt8} (h : b < 0x80) : HasBits [b] b.toNat
  | more {b : UInt8} {bytes : Bytes} {n : Nat} (h : ¬ b < 0x80) (hrest : HasBits bytes n) :
      HasBits (b :: bytes) (b.toNat - 128 + 128 * n)

/-- The bytes are a varint for a number of 64 bits, padded or not. -/
structure IsSpelling (bytes : Bytes) (n : Nat) : Prop where
  hasBits : HasBits bytes n
  length : bytes.length ≤ maxBytes
  lt : n < UInt64.size

variable {n places : Nat} {bytes front rest : Bytes}

/-- A number is read from its bits, if they fit the places. -/
theorem readFrom_of_hasBits (h : HasBits bytes n) (hlength : bytes.length ≤ places + 1)
    (hlt : n < 2 * 128 ^ places) (rest : Bytes) :
    readFrom (places + 1) (bytes ++ rest) = some (n, rest) := by
  induction h generalizing places with
  | @last b hlast =>
      have hroom : ¬ (places = 0 ∧ 2 ≤ b) := by
        rintro ⟨rfl, hle⟩
        rw [UInt8.le_iff_toNat_le] at hle
        have htwo : (2 : UInt8).toNat = 2 := rfl
        omega
      rw [List.singleton_append, readFrom, if_pos hlast, if_neg hroom]
  | @more b bytes n hmore hbits ih =>
      rw [UInt8.lt_iff_toNat_lt] at hmore
      have heighty : (0x80 : UInt8).toNat = 128 := rfl
      cases places with
      | zero =>
          -- One more byte does not fit the last place.
          cases hbits <;> simp at hlength
      | succ places =>
          rw [Nat.pow_succ] at hlt
          rw [List.length_cons] at hlength
          have hread : readFrom (places + 1) (bytes ++ rest) = some (n, rest) :=
            ih (by omega) (by omega)
          rw [List.cons_append, readFrom, if_neg (by rwa [UInt8.lt_iff_toNat_lt]), hread]
          rfl

/-- What is read has its bits at the beginning. -/
theorem hasBits_of_readFrom (h : readFrom places bytes = some (n, rest)) :
    ∃ front, bytes = front ++ rest ∧ HasBits front n ∧ front.length ≤ places := by
  induction places, bytes using readFrom.induct generalizing n with
  | case1 => cases h
  | case2 => cases h
  | case3 places b _ hlast hroom =>
      rw [readFrom, if_pos hlast, if_pos hroom] at h
      cases h
  | case4 places b tail hlast hroom =>
      rw [readFrom, if_pos hlast, if_neg hroom] at h
      cases h
      exact ⟨[b], rfl, .last hlast, Nat.le_add_left _ _⟩
  | case5 places b tail hmore ih =>
      rw [readFrom, if_neg hmore] at h
      simp only [Option.bind_eq_bind, Option.bind_eq_some_iff, Option.some.injEq,
        Prod.mk.injEq] at h
      obtain ⟨⟨high, rest'⟩, hhigh, rfl, rfl⟩ := h
      obtain ⟨front, rfl, hbits, hlength⟩ := ih hhigh
      exact ⟨b :: front, rfl, .more hmore hbits, Nat.succ_le_succ hlength⟩

/-- A number is read exactly from its spellings. -/
theorem read_eq_some_iff :
    read bytes = some (n, rest) ↔ ∃ front, bytes = front ++ rest ∧ IsSpelling front n := by
  constructor
  · intro h
    obtain ⟨front, hfront, hbits, hlength⟩ := hasBits_of_readFrom h
    exact ⟨front, hfront, hbits, hlength, lt_of_read h⟩
  · rintro ⟨front, rfl, hbits, hlength, hlt⟩
    exact readFrom_of_hasBits hbits hlength (by simpa [UInt64.size] using hlt) rest

/-- A spelling is read as its number, whatever follows it. -/
theorem IsSpelling.read_append (h : IsSpelling front n) (rest : Bytes) :
    read (front ++ rest) = some (n, rest) :=
  read_eq_some_iff.2 ⟨front, rfl, h⟩

/-- A spelling has a byte. -/
theorem IsSpelling.length_pos (h : IsSpelling bytes n) : 0 < bytes.length := by
  cases h.hasBits <;> exact Nat.succ_pos _

/-- Bytes that are read as a number and no more are one of its spellings. -/
theorem isSpelling_of_read (h : read bytes = some (n, [])) : IsSpelling bytes n := by
  obtain ⟨front, hfront, hspelling⟩ := read_eq_some_iff.1 h
  rwa [hfront, List.append_nil]

/-- The shortest varint is a spelling. -/
theorem isSpelling_write (h : n < UInt64.size) : IsSpelling (write n) n := by
  have hread := read_write h []
  rw [List.append_nil] at hread
  exact isSpelling_of_read hread

end Varint

/-- The bytes are a record: a key and a payload, with all numbers in any spelling. -/
inductive Record.IsSpelling : Bytes → Record → Prop where
  | varint {number n : Nat} {keyBytes bytes : Bytes} (hnumber : IsFieldNumber number)
      (hkey : Varint.IsSpelling keyBytes (key number .varint))
      (hvalue : Varint.IsSpelling bytes n) : IsSpelling (keyBytes ++ bytes) ⟨number, .varint n⟩
  | fixed64 {number : Nat} {keyBytes bytes : Bytes} (hnumber : IsFieldNumber number)
      (hkey : Varint.IsSpelling keyBytes (key number .fixed64)) (hlength : bytes.length = 8) :
      IsSpelling (keyBytes ++ bytes) ⟨number, .fixed64 bytes⟩
  | delimited {number : Nat} {keyBytes countBytes bytes : Bytes} (hnumber : IsFieldNumber number)
      (hkey : Varint.IsSpelling keyBytes (key number .delimited))
      (hcount : Varint.IsSpelling countBytes bytes.length) :
      IsSpelling (keyBytes ++ (countBytes ++ bytes)) ⟨number, .delimited bytes⟩
  | fixed32 {number : Nat} {keyBytes bytes : Bytes} (hnumber : IsFieldNumber number)
      (hkey : Varint.IsSpelling keyBytes (key number .fixed32)) (hlength : bytes.length = 4) :
      IsSpelling (keyBytes ++ bytes) ⟨number, .fixed32 bytes⟩

/-- A key is read from any of its spellings. -/
theorem readKey_append {number : Nat} {type : WireType} {keyBytes : Bytes}
    (hnumber : IsFieldNumber number) (h : Varint.IsSpelling keyBytes (key number type))
    (rest : Bytes) : readKey (keyBytes ++ rest) = some (number, type, rest) := by
  have hwrite := readKey_write hnumber type rest
  unfold readKey at hwrite ⊢
  rw [Varint.read_write h.lt] at hwrite
  rw [h.read_append]
  exact hwrite

/-- A record is read if its payload is. -/
theorem Record.read_append {number : Nat} {type : WireType} {keyBytes bytes rest : Bytes}
    {payload : Payload} (hnumber : IsFieldNumber number)
    (hkey : Varint.IsSpelling keyBytes (key number type)) (htype : type ≠ .startGroup)
    (hpayload : readPayload 1 groupLimit number type bytes = some (payload, rest)) :
    read (keyBytes ++ bytes) = some (⟨number, payload⟩, rest) := by
  have hfuel : (if type = .startGroup then 2 * bytes.length + 2 else 1) = 1 := if_neg htype
  rw [read, readKey_append hnumber hkey]
  simp only [Option.bind_eq_bind, Option.bind_some, hfuel, hpayload]

/-- A record is read from any of its spellings, whatever follows them. -/
theorem Record.IsSpelling.spells {bytes : Bytes} {record : Record} (h : IsSpelling bytes record) :
    Spells bytes [record] := by
  refine spells_of_read fun rest => ?_
  cases h with
  | varint hnumber hkey hvalue =>
      rw [List.append_assoc]
      refine read_append hnumber hkey (by decide) ?_
      simp only [groupLimit, readPayload, hvalue.read_append, Option.bind_eq_bind, Option.bind_some]
  | @fixed64 number keyBytes bytes hnumber hkey hlength =>
      have hsplit := splitBytes_append bytes rest
      rw [hlength] at hsplit
      rw [List.append_assoc]
      refine read_append hnumber hkey (by decide) ?_
      simp only [groupLimit, readPayload, hsplit, Option.bind_eq_bind, Option.bind_some]
  | delimited hnumber hkey hcount =>
      rw [List.append_assoc, List.append_assoc]
      refine read_append hnumber hkey (by decide) ?_
      simp only [groupLimit, readPayload, hcount.read_append, splitBytes_append,
        Option.bind_eq_bind, Option.bind_some]
  | @fixed32 number keyBytes bytes hnumber hkey hlength =>
      have hsplit := splitBytes_append bytes rest
      rw [hlength] at hsplit
      rw [List.append_assoc]
      refine read_append hnumber hkey (by decide) ?_
      simp only [groupLimit, readPayload, hsplit, Option.bind_eq_bind, Option.bind_some]

end MalwareScan.Wire
