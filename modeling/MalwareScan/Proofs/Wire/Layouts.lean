import MalwareScan.Proofs.Wire.RoundTrip
import MalwareScan.Proofs.Wire.Spellings

/-!
# Layouts of the scanner's messages

A message may be laid out in many ways: its records in any order and among unknown ones, a scalar
field several times, the words of a list one by one or packed, in one record or in several, and
every number in any spelling. `ServerMessage.IsLayout` states what bytes are a layout of a message
without the readers, as entries of which the last one counts or all are collected. All layouts of
a message are read as this message; the message's own bytes are one of them, and a layout with
another message behind it is one of both merged (`layouts_read_alike`).
-/

namespace MalwareScan.Wire

namespace ServerMessage

/-! ## Entries -/

/-- What one record of a message says: the word of a scalar field, the result, more words of a list,
or nothing that is known. Fields are given by their numbers. -/
inductive Entry where
  | word (number : Nat) (x : Int32)
  | text (s : String)
  | words (number : Nat) (xs : List Int32)
  | foreign

/-- The words stand one after the other, each spelled as some number whose low bits it is. -/
inductive IsPacked : Bytes → List Int32 → Prop where
  | nil : IsPacked [] []
  | cons {front bytes : Bytes} {n : Nat} {xs : List Int32} (hfirst : Varint.IsSpelling front n)
      (hrest : IsPacked bytes xs) : IsPacked (front ++ bytes) (int32Of n :: xs)

/-- The record says this. The scalar fields have the numbers from 1 to 4, the result has 5, the two
lists have 6 and 7, and greater numbers are unknown. -/
inductive Entry.IsSaidBy : Entry → Record → Prop where
  | word {number n : Nat} (hnumber : 1 ≤ number ∧ number ≤ 4) :
      IsSaidBy (.word number (int32Of n)) ⟨number, .varint n⟩
  | text {s : String} : IsSaidBy (.text s) ⟨5, .delimited (Text.Utf8.encode s)⟩
  | single {number n : Nat} (hnumber : number = 6 ∨ number = 7) :
      IsSaidBy (.words number [int32Of n]) ⟨number, .varint n⟩
  | packed {number : Nat} {bytes : Bytes} {xs : List Int32} (hnumber : number = 6 ∨ number = 7)
      (hpacked : IsPacked bytes xs) : IsSaidBy (.words number xs) ⟨number, .delimited bytes⟩
  | foreign {number : Nat} {payload : Payload} (hnumber : 7 < number) :
      IsSaidBy .foreign ⟨number, payload⟩

namespace Entry

/-- The word that an entry gives to the scalar field `number`. -/
def word? (number : Nat) : Entry → Option Int32
  | .word field x => if field = number then some x else none
  | _ => none

/-- The result that an entry gives. -/
def text? : Entry → Option String
  | .text s => some s
  | _ => none

/-- The words that an entry adds to the list `number`. -/
def wordsOf (number : Nat) : Entry → List Int32
  | .words field xs => if field = number then xs else []
  | _ => []

end Entry

/-- The message after more entries: the last word of a scalar field counts, as does the last result,
and the words of a list are appended in order. -/
def after (m : ServerMessage) (entries : List Entry) : ServerMessage where
  stage := (entries.filterMap (Entry.word? 1)).getLastD m.stage
  command := (entries.filterMap (Entry.word? 2)).getLastD m.command
  offset := (entries.filterMap (Entry.word? 3)).getLastD m.offset
  length := (entries.filterMap (Entry.word? 4)).getLastD m.length
  result := (entries.filterMap Entry.text?).getLastD m.result
  bulkOffset := m.bulkOffset ++ entries.flatMap (Entry.wordsOf 6)
  bulkLength := m.bulkLength ++ entries.flatMap (Entry.wordsOf 7)

/-- The bytes are records that say the entries in order. -/
inductive Layout : Bytes → List Entry → Prop where
  | nil : Layout [] []
  | cons {front bytes : Bytes} {record : Record} {entry : Entry} {entries : List Entry}
      (hrecord : Record.IsSpelling front record) (hsaid : entry.IsSaidBy record)
      (hrest : Layout bytes entries) : Layout (front ++ bytes) (entry :: entries)

/-- The bytes are a layout of the message: their entries, added to an empty message, state it. -/
def IsLayout (m : ServerMessage) (bytes : Bytes) : Prop :=
  ∃ entries, Layout bytes entries ∧ after {} entries = m

/-- Both messages in one: what the other one has set wins, and its lists are appended. -/
def merge (m other : ServerMessage) : ServerMessage where
  stage := if other.stage = 0 then m.stage else other.stage
  command := if other.command = 0 then m.command else other.command
  offset := if other.offset = 0 then m.offset else other.offset
  length := if other.length = 0 then m.length else other.length
  result := if other.result = "" then m.result else other.result
  bulkOffset := m.bulkOffset ++ other.bulkOffset
  bulkLength := m.bulkLength ++ other.bulkLength

variable {m other : ServerMessage} {bytes more : Bytes} {entry : Entry}
  {said others : List Entry} {record : Record} {number : Nat}

/-! ## Reading layouts -/

/-- Packed words are read, however they are spelled. -/
theorem IsPacked.unpackFuel_eq {xs : List Int32} (h : IsPacked bytes xs) {fuel : Nat}
    (hfuel : bytes.length ≤ fuel) : Payload.unpackFuel fuel bytes = some xs := by
  induction h generalizing fuel with
  | nil => cases fuel <;> rfl
  | @cons front bytes n xs hfirst hrest ih =>
      have hpos := hfirst.length_pos
      have hne : front ++ bytes ≠ [] := by
        rw [← List.length_pos_iff, List.length_append]
        omega
      rw [List.length_append] at hfuel
      cases fuel with
      | zero => omega
      | succ fuel =>
          rw [Payload.unpackFuel.eq_3 _ _ hne, hfirst.read_append]
          simp only [Option.bind_eq_bind, Option.bind_some]
          rw [ih (by omega), Option.bind_some]

/-- Entries may be added in two parts. -/
theorem after_append (m : ServerMessage) (said others : List Entry) :
    m.after (said ++ others) = (m.after said).after others := by
  simp only [after, List.filterMap_append, List.flatMap_append, List.append_assoc,
    List.getLastD_eq_getLast?, List.getLast?_append, Option.getD_or]

/-- A record changes a message by what it says. -/
theorem add_eq (h : entry.IsSaidBy record) : m.add record = some (m.after [entry]) := by
  cases h with
  | @word number n hnumber =>
      obtain rfl | rfl | rfl | rfl : number = 1 ∨ number = 2 ∨ number = 3 ∨ number = 4 := by omega
      all_goals simp [add, after, Entry.word?, Entry.text?, Entry.wordsOf, Payload.int32?,
        Payload.number?]
  | @text s =>
      have hread : (Payload.delimited (Text.Utf8.encode s)).text? = some s :=
        Text.Utf8.decode?_encode s
      simp [add, after, Entry.word?, Entry.text?, Entry.wordsOf, hread]
  | single hnumber =>
      obtain rfl | rfl := hnumber
      all_goals simp [add, after, Entry.word?, Entry.text?, Entry.wordsOf, Payload.int32s?]
  | @packed number bytes xs hnumber hpacked =>
      have hread : (Payload.delimited bytes).int32s? = some xs :=
        hpacked.unpackFuel_eq (Nat.le_refl _)
      obtain rfl | rfl := hnumber
      all_goals simp [add, after, Entry.word?, Entry.text?, Entry.wordsOf, hread]
  | @foreign number payload hnumber =>
      unfold add
      split
      case h_8 => simp [after, Entry.word?, Entry.text?, Entry.wordsOf]
      all_goals
        rename_i hfield
        simp only at hfield
        omega

/-- A layout is read as the message that its entries state, whatever was read before. -/
theorem Layout.foldlM_eq (h : Layout bytes said) (m : ServerMessage) :
    ((Record.readAll bytes).bind fun records => records.foldlM add m) =
      some (m.after said) := by
  induction h generalizing m with
  | nil => simp [Record.readAll, Record.readFuel, after]
  | @cons front bytes record entry said hrecord hsaid hrest ih =>
      have hnext := ih (m.after [entry])
      rw [← after_append, List.singleton_append] at hnext
      rw [← hnext, hrecord.spells bytes, Option.bind_map]
      refine Option.bind_congr fun records _ => ?_
      simp [add_eq hsaid]

/-! ## Putting layouts together -/

/-- Layouts can be put together. -/
theorem Layout.append (h : Layout bytes said) (hmore : Layout more others) :
    Layout (bytes ++ more) (said ++ others) := by
  induction h with
  | nil => exact hmore
  | cons hrecord hsaid _ ih =>
      rw [List.append_assoc]
      exact .cons hrecord hsaid ih

/-- A record that may be left out is a layout of its entry, or of none. -/
theorem Layout.omitIf {p : Prop} [Decidable p] (hrecord : Record.IsSpelling bytes record)
    (hsaid : entry.IsSaidBy record) :
    Layout (if p then [] else bytes) (if p then [] else [entry]) := by
  split
  · exact .nil
  · have hone := Layout.cons hrecord hsaid .nil
    rwa [List.append_nil] at hone

/-! ## The bytes of a message -/

/-- The entries of a message: its fields, without those that have their default values. -/
def entries (m : ServerMessage) : List Entry :=
  (if m.stage = 0 then [] else [.word 1 m.stage]) ++
    (if m.command = 0 then [] else [.word 2 m.command]) ++
    (if m.offset = 0 then [] else [.word 3 m.offset]) ++
    (if m.length = 0 then [] else [.word 4 m.length]) ++
    (if m.result = "" then [] else [.text m.result]) ++
    (if m.bulkOffset = [] then [] else [.words 6 m.bulkOffset]) ++
    (if m.bulkLength = [] then [] else [.words 7 m.bulkLength])

/-- What an entry gives that may be left out. -/
theorem filterMap_omitted {α : Type} {p : Prop} [Decidable p] (give : Entry → Option α)
    (entry : Entry) :
    (if p then [] else [entry]).filterMap give = if p then [] else (give entry).toList := by
  split
  · rfl
  · cases hgive : give entry <;> simp [hgive]

/-- What an entry adds that may be left out. -/
theorem flatMap_omitted {α : Type} {p : Prop} [Decidable p] (give : Entry → List α)
    (entry : Entry) :
    (if p then [] else [entry]).flatMap give = if p then [] else give entry := by
  split <;> simp

/-- A message with the entries of another one is both merged. -/
theorem after_entries (m other : ServerMessage) : m.after other.entries = m.merge other := by
  have hlast {α : Type} {p : Prop} [Decidable p] (x before : α) :
      (if p then [] else [x]).getLast?.getD before = if p then before else x := by
    split <;> rfl
  have hlist (xs : List Int32) : (if xs = [] then [] else xs) = xs := by
    split
    · exact Eq.symm ‹_›
    · rfl
  simp [after, merge, entries, filterMap_omitted, flatMap_omitted, Entry.word?, Entry.text?,
    Entry.wordsOf, hlast, hlist]

/-- The key of a field has 32 bits. -/
theorem key_lt (hnumber : IsFieldNumber number) (type : WireType) :
    key number type < UInt64.size := by
  have htype := type.number_lt
  have hsize : UInt64.size = 18446744073709551616 := rfl
  have hlt := hnumber.2
  rw [key]
  omega

/-- A written varint is a spelling of its record. -/
theorem isSpelling_writeVarint (hnumber : IsFieldNumber number) {value : Nat}
    (hvalue : value < UInt64.size) :
    Record.IsSpelling (writeVarint number value) ⟨number, .varint value⟩ :=
  .varint hnumber (Varint.isSpelling_write (key_lt hnumber _)) (Varint.isSpelling_write hvalue)

/-- Written bytes are a spelling of their record. -/
theorem isSpelling_writeDelimited (hnumber : IsFieldNumber number)
    (hbytes : bytes.length < UInt64.size) :
    Record.IsSpelling (writeDelimited number bytes) ⟨number, .delimited bytes⟩ := by
  rw [writeDelimited, List.append_assoc]
  exact .delimited hnumber (Varint.isSpelling_write (key_lt hnumber _))
    (Varint.isSpelling_write hbytes)

/-- A scalar field is written as a layout of its word. -/
theorem layout_writeInt32 (hnumber : 1 ≤ number ∧ number ≤ 4) (x : Int32) :
    Layout (writeInt32 number x) (if x = 0 then [] else [.word number x]) := by
  have hsaid : (Entry.word number (int32Of (int32Number x))).IsSaidBy _ := .word hnumber
  rw [int32Of_int32Number] at hsaid
  exact .omitIf (isSpelling_writeVarint ⟨by omega, by omega⟩ (int32Number_lt x)) hsaid

/-- The result is written as a layout of its text. -/
theorem layout_writeText {s : String} (h : s.utf8ByteSize < UInt64.size) :
    Layout (writeText 5 s) (if s = "" then [] else [.text s]) := by
  have hempty : (Text.Utf8.encode s).isEmpty = true ↔ s = "" := by
    rw [List.isEmpty_iff, ← List.length_eq_zero_iff, length_encode_text,
      String.utf8ByteSize_eq_zero_iff]
  simp only [writeText, writeBytes, hempty]
  exact .omitIf (isSpelling_writeDelimited (by decide) (by rwa [length_encode_text])) .text

/-- Words are packed one after the other. -/
theorem isPacked_packInt32s (xs : List Int32) : IsPacked (packInt32s xs) xs := by
  induction xs with
  | nil => exact .nil
  | cons x xs ih =>
      have hcons := IsPacked.cons (Varint.isSpelling_write (int32Number_lt x)) ih
      rwa [int32Of_int32Number, ← packInt32s_cons] at hcons

/-- A list is written as a layout of its words. -/
theorem layout_writeInt32s (hnumber : number = 6 ∨ number = 7) {xs : List Int32}
    (h : (packInt32s xs).length < UInt64.size) :
    Layout (writeInt32s number xs) (if xs = [] then [] else [.words number xs]) := by
  simp only [writeInt32s, List.isEmpty_iff]
  exact .omitIf (isSpelling_writeDelimited ⟨by omega, by omega⟩ h)
    (.packed hnumber (isPacked_packInt32s xs))

/-- A message is written as a layout of its entries. -/
theorem layout_encode (h : m.Fits) : Layout m.encode m.entries := by
  unfold encode entries
  repeat' apply Layout.append
  · exact layout_writeInt32 (by decide) m.stage
  · exact layout_writeInt32 (by decide) m.command
  · exact layout_writeInt32 (by decide) m.offset
  · exact layout_writeInt32 (by decide) m.length
  · exact layout_writeText h.result
  · exact layout_writeInt32s (.inl rfl) h.bulkOffset
  · exact layout_writeInt32s (.inr rfl) h.bulkLength

/-- A layout is read as its message. -/
theorem IsLayout.decode?_eq (h : m.IsLayout bytes) : decode? bytes = some m := by
  obtain ⟨said, hlayout, rfl⟩ := h
  exact hlayout.foldlM_eq {}

/-- An empty message adds nothing to another one. -/
theorem empty_merge (m : ServerMessage) : merge {} m = m := by
  have hset {α : Type} [DecidableEq α] (x empty : α) : (if x = empty then empty else x) = x := by
    split
    · exact Eq.symm ‹_›
    · rfl
  simp [merge, hset]

/-- The bytes of a message are a layout of it. -/
theorem isLayout_encode (h : m.Fits) : m.IsLayout m.encode :=
  ⟨m.entries, layout_encode h, by rw [after_entries, empty_merge]⟩

/-- A layout with the bytes of another message behind it is a layout of both merged. -/
theorem IsLayout.append (h : m.IsLayout bytes) (hother : other.Fits) :
    (m.merge other).IsLayout (bytes ++ other.encode) := by
  obtain ⟨said, hlayout, rfl⟩ := h
  exact ⟨_, hlayout.append (layout_encode hother), by rw [after_append, after_entries]⟩

end ServerMessage

/-- All layouts of a message are read as this message, and so they ask for the same ranges. The
bytes that are written for a message are one of its layouts. A layout with the bytes of another
message behind it is read as both merged. -/
theorem layouts_read_alike (m : ServerMessage) :
    (∀ bytes, m.IsLayout bytes →
      ServerMessage.decode? bytes = some m ∧
        (ServerMessage.decode? bytes).map ServerMessage.ranges = some m.ranges) ∧
    (m.encode.length < UInt64.size → m.IsLayout m.encode) ∧
    ∀ bytes other, m.IsLayout bytes → other.encode.length < UInt64.size →
      ServerMessage.decode? (bytes ++ other.encode) = some (m.merge other) := by
  refine ⟨fun bytes h => ⟨h.decode?_eq, ?_⟩, fun h => ?_, fun bytes other h hother => ?_⟩
  · rw [h.decode?_eq, Option.map_some]
  · exact ServerMessage.isLayout_encode (ServerMessage.fits_of_length h)
  · exact (h.append (ServerMessage.fits_of_length hother)).decode?_eq

/-- A layout in which the stage is set twice, the second time behind a padded key, an unknown field
stands in between, and the words of a list come singly, padded, and packed. -/
theorem layouts_read_alike_padded :
    let bytes : Bytes := [0x08, 0x01] ++ ([0x4D, 9, 9, 9, 9] ++ ([0x30, 0x85, 0x80, 0x00] ++
      ([0x32, 0x02, 0xAC, 0x02] ++ ([0x3A, 0x02, 0x01, 0x00] ++ ([0x88, 0x00, 0x03] ++ [])))))
    let m : ServerMessage := { stage := 3, bulkOffset := [5, 300], bulkLength := [1, 0] }
    let merged : ServerMessage := { ServerMessage.quit "clean" with
      bulkOffset := [5, 300], bulkLength := [1, 0] }
    m.IsLayout bytes ∧ ServerMessage.decode? bytes = some m ∧
      (ServerMessage.decode? bytes).map ServerMessage.ranges = some (.ok [⟨5, 1⟩, ⟨300, 0⟩]) ∧
      ServerMessage.decode? (bytes ++ (ServerMessage.quit "clean").encode) = some merged := by
  intro bytes m merged
  have hstage : Record.IsSpelling ([0x08] ++ [0x01]) ⟨1, .varint 1⟩ :=
    .varint (by decide) (Varint.isSpelling_of_read (by decide))
      (Varint.isSpelling_of_read (by decide))
  have hforeign : Record.IsSpelling ([0x4D] ++ [9, 9, 9, 9]) ⟨9, .fixed32 [9, 9, 9, 9]⟩ :=
    .fixed32 (by decide) (Varint.isSpelling_of_read (by decide)) rfl
  have hsingle : Record.IsSpelling ([0x30] ++ [0x85, 0x80, 0x00]) ⟨6, .varint 5⟩ :=
    .varint (by decide) (Varint.isSpelling_of_read (by decide))
      (Varint.isSpelling_of_read (by decide))
  have hpacked : Record.IsSpelling ([0x32] ++ ([0x02] ++ [0xAC, 0x02]))
      ⟨6, .delimited [0xAC, 0x02]⟩ :=
    .delimited (by decide) (Varint.isSpelling_of_read (by decide))
      (Varint.isSpelling_of_read (by decide))
  have hpair : Record.IsSpelling ([0x3A] ++ ([0x02] ++ [0x01, 0x00]))
      ⟨7, .delimited [0x01, 0x00]⟩ :=
    .delimited (by decide) (Varint.isSpelling_of_read (by decide))
      (Varint.isSpelling_of_read (by decide))
  have hagain : Record.IsSpelling ([0x88, 0x00] ++ [0x03]) ⟨1, .varint 3⟩ :=
    .varint (by decide) (Varint.isSpelling_of_read (by decide))
      (Varint.isSpelling_of_read (by decide))
  have hwords : ServerMessage.IsPacked ([0xAC, 0x02] ++ []) [int32Of 300] :=
    .cons (Varint.isSpelling_of_read (by decide)) .nil
  have hlengths : ServerMessage.IsPacked ([0x01] ++ ([0x00] ++ [])) [int32Of 1, int32Of 0] :=
    .cons (Varint.isSpelling_of_read (by decide)) <|
      .cons (Varint.isSpelling_of_read (by decide)) .nil
  have hlayout : m.IsLayout bytes :=
    ⟨_, .cons hstage (.word (by decide)) <| .cons hforeign (.foreign (by decide)) <|
      .cons hsingle (.single (.inl rfl)) <| .cons hpacked (.packed (.inl rfl) hwords) <|
      .cons hpair (.packed (.inr rfl) hlengths) <| .cons hagain (.word (by decide)) .nil,
      by decide⟩
  obtain ⟨hread, -, hmerged⟩ := layouts_read_alike m
  obtain ⟨hdecode, hranges⟩ := hread bytes hlayout
  refine ⟨hlayout, hdecode, hranges, ?_⟩
  have hlength : (ServerMessage.quit "clean").encode.length < UInt64.size := by decide +kernel
  rw [hmerged bytes _ hlayout hlength]
  rfl

end MalwareScan.Wire
