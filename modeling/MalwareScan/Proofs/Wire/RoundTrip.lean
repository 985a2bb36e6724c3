import MalwareScan.Proofs.Wire.Fields
import MalwareScan.Wire.ClientMessage
import MalwareScan.Wire.ServerMessage

/-!
# Messages on the wire

A message is read back from its bytes. It is written as the records of its fields one after the
other; reading adds them to an empty message, and each field is set by its own records. Lengths are
varints of 64 bits, so that no field may be longer than such a number can say; no message that was
read has such a field. The main theorem is `messages_survive_wire`.
-/

namespace MalwareScan.Wire

open Record

namespace ClientMessage

variable {m m' : ClientMessage}

/-- The lengths of the message's fields can be written. -/
structure Fits (m : ClientMessage) : Prop where
  fileName : m.fileName.utf8ByteSize < UInt64.size
  chunk : m.chunk.length < UInt64.size
  sha1 : m.sha1.utf8ByteSize < UInt64.size
  sha256 : m.sha256.utf8ByteSize < UInt64.size
  tags : ∀ s ∈ m.tags, s.utf8ByteSize < UInt64.size

/-- The records of a message. -/
def records (m : ClientMessage) : List Record :=
  ofInt32 1 m.stage ++ ofText 2 m.fileName ++ ofInt64 3 m.size ++ ofInt32 4 m.offset ++
    ofBytes 5 m.chunk ++ ofBool 6 m.pml ++ ofText 7 m.sha1 ++ ofText 8 m.sha256 ++
    ofTexts 9 m.tags ++ ofBool 10 m.bulk ++ ofBool 11 m.feedback ++
    ofBool 12 m.verbose ++ ofBool 13 m.activeContent

/-- The bytes of a message spell its records. -/
theorem spells_encode (h : m.Fits) : Spells m.encode m.records := by
  unfold encode records
  repeat' apply Spells.append
  · exact spells_writeInt32 (by decide) m.stage
  · exact spells_writeText (by decide) h.fileName
  · exact spells_writeInt64 (by decide) m.size
  · exact spells_writeInt32 (by decide) m.offset
  · exact spells_writeBytes (by decide) h.chunk
  · exact spells_writeBool (by decide) m.pml
  · exact spells_writeText (by decide) h.sha1
  · exact spells_writeText (by decide) h.sha256
  · exact spells_writeTexts (by decide) h.tags
  · exact spells_writeBool (by decide) m.bulk
  · exact spells_writeBool (by decide) m.feedback
  · exact spells_writeBool (by decide) m.verbose
  · exact spells_writeBool (by decide) m.activeContent

/-- The records of a message set its fields one after the other. -/
theorem foldlM_records (m : ClientMessage) : m.records.foldlM add {} = some m := by
  unfold records
  simp only [List.append_assoc]
  refine foldlM_append_of
    (foldlM_ofInt32 (fun m x => { m with stage := x }) (fun _ _ => rfl) rfl m.stage) ?_
  refine foldlM_append_of
    (foldlM_ofText (fun m s => { m with fileName := s }) (fun _ _ => rfl) rfl m.fileName) ?_
  refine foldlM_append_of
    (foldlM_ofInt64 (fun m n => { m with size := n }) (fun _ _ => rfl) rfl m.size) ?_
  refine foldlM_append_of
    (foldlM_ofInt32 (fun m x => { m with offset := x }) (fun _ _ => rfl) rfl m.offset) ?_
  refine foldlM_append_of
    (foldlM_ofBytes (fun m bytes => { m with chunk := bytes }) (fun _ _ => rfl) rfl m.chunk) ?_
  refine foldlM_append_of
    (foldlM_ofBool (fun m b => { m with pml := b }) (fun _ _ => rfl) rfl m.pml) ?_
  refine foldlM_append_of
    (foldlM_ofText (fun m s => { m with sha1 := s }) (fun _ _ => rfl) rfl m.sha1) ?_
  refine foldlM_append_of
    (foldlM_ofText (fun m s => { m with sha256 := s }) (fun _ _ => rfl) rfl m.sha256) ?_
  refine foldlM_append_of
    (foldlM_ofTexts tags (fun m texts => { m with tags := texts }) (fun _ _ => rfl)
      (fun _ => rfl) (fun _ _ => rfl) rfl m.tags) ?_
  refine foldlM_append_of
    (foldlM_ofBool (fun m b => { m with bulk := b }) (fun _ _ => rfl) rfl m.bulk) ?_
  refine foldlM_append_of
    (foldlM_ofBool (fun m b => { m with feedback := b }) (fun _ _ => rfl) rfl m.feedback) ?_
  refine foldlM_append_of
    (foldlM_ofBool (fun m b => { m with verbose := b }) (fun _ _ => rfl) rfl m.verbose) ?_
  exact foldlM_ofBool (fun (m : ClientMessage) b => { m with activeContent := b }) (fun _ _ => rfl)
    rfl m.activeContent

/-- The length of a message is what is announced. -/
theorem length_encode (m : ClientMessage) : m.encode.length = m.encodedLength := by
  simp [encode, encodedLength, Nat.add_assoc]

/-- The fields of a message are not longer than the message. -/
theorem fits_of_length (h : m.encode.length < UInt64.size) : m.Fits := by
  have hname := utf8ByteSize_le_sizeText 2 m.fileName
  have hchunk := length_le_sizeBytes 5 m.chunk
  have hsha1 := utf8ByteSize_le_sizeText 7 m.sha1
  have hsha256 := utf8ByteSize_le_sizeText 8 m.sha256
  rw [length_encode, encodedLength] at h
  refine ⟨by omega, by omega, by omega, by omega, fun s hs => ?_⟩
  have htag := utf8ByteSize_le_sizeTexts 9 hs
  omega

/-- A message is read back. -/
theorem decode?_encode (h : m.Fits) : decode? m.encode = some m := by
  rw [decode?, (spells_encode h).readAll_eq, Option.bind_some, foldlM_records]

/-- A record that was read keeps the fields of a message short enough. -/
theorem Fits.add {record : Record} (h : m.Fits) (hrecord : record.payload.Fits)
    (hadd : m.add record = some m') : m'.Fits := by
  unfold ClientMessage.add at hadd
  -- One case for each field, and one for all numbers that are no field.
  split at hadd
  case h_14 =>
    cases hadd
    exact h
  all_goals obtain ⟨value, hvalue, rfl⟩ := Option.map_eq_some_iff.1 hadd
  case h_2 => exact { h with fileName := hrecord.utf8ByteSize_lt hvalue }
  case h_5 => exact { h with chunk := hrecord.length_lt hvalue }
  case h_7 => exact { h with sha1 := hrecord.utf8ByteSize_lt hvalue }
  case h_8 => exact { h with sha256 := hrecord.utf8ByteSize_lt hvalue }
  case h_9 =>
    refine { h with tags := fun s hs => ?_ }
    rcases List.mem_append.1 hs with hold | hnew
    · exact h.tags s hold
    · rw [List.mem_singleton.1 hnew]
      exact hrecord.utf8ByteSize_lt hvalue
  all_goals exact { h with }

/-- The fields of a message that was read are short enough. -/
theorem fits_of_decode? {bytes : Bytes} (h : decode? bytes = some m) : m.Fits := by
  have hstart : Fits {} := ⟨by decide, by decide, by decide, by decide, nofun⟩
  obtain ⟨_, -, hfits⟩ := kept_of_read (P := fun _ m => Fits m)
    (fun _ _ _ _ hm hrecord hadd => hm.add hrecord hadd) hstart h
  exact hfits

end ClientMessage

namespace ServerMessage

variable {m m' : ServerMessage} {n : Nat}

/-- The lengths of the message's fields can be written. -/
structure Fits (m : ServerMessage) : Prop where
  result : m.result.utf8ByteSize < UInt64.size
  bulkOffset : (packInt32s m.bulkOffset).length < UInt64.size
  bulkLength : (packInt32s m.bulkLength).length < UInt64.size

/-- The records of a message. -/
def records (m : ServerMessage) : List Record :=
  ofInt32 1 m.stage ++ ofInt32 2 m.command ++ ofInt32 3 m.offset ++ ofInt32 4 m.length ++
    ofText 5 m.result ++ ofInt32s 6 m.bulkOffset ++ ofInt32s 7 m.bulkLength

/-- The bytes of a message spell its records. -/
theorem spells_encode (h : m.Fits) : Spells m.encode m.records := by
  unfold encode records
  repeat' apply Spells.append
  · exact spells_writeInt32 (by decide) m.stage
  · exact spells_writeInt32 (by decide) m.command
  · exact spells_writeInt32 (by decide) m.offset
  · exact spells_writeInt32 (by decide) m.length
  · exact spells_writeText (by decide) h.result
  · exact spells_writeInt32s (by decide) h.bulkOffset
  · exact spells_writeInt32s (by decide) h.bulkLength

/-- The records of a message set its fields one after the other. -/
theorem foldlM_records (m : ServerMessage) : m.records.foldlM add {} = some m := by
  unfold records
  simp only [List.append_assoc]
  refine foldlM_append_of
    (foldlM_ofInt32 (fun m x => { m with stage := x }) (fun _ _ => rfl) rfl m.stage) ?_
  refine foldlM_append_of
    (foldlM_ofInt32 (fun m x => { m with command := x }) (fun _ _ => rfl) rfl m.command) ?_
  refine foldlM_append_of
    (foldlM_ofInt32 (fun m x => { m with offset := x }) (fun _ _ => rfl) rfl m.offset) ?_
  refine foldlM_append_of
    (foldlM_ofInt32 (fun m x => { m with length := x }) (fun _ _ => rfl) rfl m.length) ?_
  refine foldlM_append_of
    (foldlM_ofText (fun m s => { m with result := s }) (fun _ _ => rfl) rfl m.result) ?_
  refine foldlM_append_of
    (foldlM_ofInt32s bulkOffset (fun m xs => { m with bulkOffset := xs }) (fun _ _ => rfl) rfl rfl
      m.bulkOffset) ?_
  exact foldlM_ofInt32s bulkLength (fun m xs => { m with bulkLength := xs })
    (fun _ _ => rfl) rfl rfl
    m.bulkLength

/-- The length of a message is what is announced. -/
theorem length_encode (m : ServerMessage) : m.encode.length = m.encodedLength := by
  simp [encode, encodedLength, Nat.add_assoc]

/-- The fields of a message are not longer than the message. -/
theorem fits_of_length (h : m.encode.length < UInt64.size) : m.Fits := by
  have hresult := utf8ByteSize_le_sizeText 5 m.result
  have hoffset := length_packInt32s_le_sizeInt32s 6 m.bulkOffset
  have hlength := length_packInt32s_le_sizeInt32s 7 m.bulkLength
  rw [length_encode, encodedLength] at h
  exact ⟨by omega, by omega, by omega⟩

/-- A message is read back. -/
theorem decode?_encode (h : m.Fits) : decode? m.encode = some m := by
  rw [decode?, (spells_encode h).readAll_eq, Option.bind_some, foldlM_records]

/-- What a message can be after so many bytes of payloads. Words may be written with twice the bytes
that they were read from. -/
structure ReadWithin (n : Nat) (m : ServerMessage) : Prop where
  result : m.result.utf8ByteSize < UInt64.size
  bulkOffset : (packInt32s m.bulkOffset).length ≤ 2 * n
  bulkLength : (packInt32s m.bulkLength).length ≤ 2 * n

/-- A record that was read adds no more to a message than its payload has. -/
theorem ReadWithin.add {record : Record} (h : m.ReadWithin n) (hrecord : record.payload.Fits)
    (hadd : m.add record = some m') : m'.ReadWithin (n + record.payload.size) := by
  have hkept : m.ReadWithin (n + record.payload.size) :=
    ⟨h.result, Nat.le_trans h.bulkOffset (by omega), Nat.le_trans h.bulkLength (by omega)⟩
  unfold ServerMessage.add at hadd
  -- One case for each field, and one for all numbers that are no field.
  split at hadd
  case h_8 =>
    cases hadd
    exact hkept
  all_goals obtain ⟨value, hvalue, rfl⟩ := Option.map_eq_some_iff.1 hadd
  case h_5 => exact { hkept with result := hrecord.utf8ByteSize_lt hvalue }
  case h_6 =>
    have hsize := Payload.length_packInt32s_le_size hvalue
    have hbefore := h.bulkOffset
    refine { hkept with bulkOffset := ?_ }
    rw [packInt32s_append, List.length_append]
    omega
  case h_7 =>
    have hsize := Payload.length_packInt32s_le_size hvalue
    have hbefore := h.bulkLength
    refine { hkept with bulkLength := ?_ }
    rw [packInt32s_append, List.length_append]
    omega
  all_goals exact { hkept with }

/-- The fields of a message that was read from bytes in memory are short enough. -/
theorem fits_of_decode? {bytes : Bytes} (hlength : bytes.length < 2 ^ 63)
    (h : decode? bytes = some m) : m.Fits := by
  have hstart : ReadWithin 0 {} := ⟨by decide, Nat.le_refl _, Nat.le_refl _⟩
  have hsize : UInt64.size = 2 ^ 64 := rfl
  obtain ⟨n, hle, hresult, hoffset, hbulk⟩ := kept_of_read (P := ReadWithin)
    (fun _ _ _ _ hm hrecord hadd => hm.add hrecord hadd) hstart h
  exact ⟨hresult, by omega, by omega⟩

/-- A request for so many ranges as fit in memory is short enough, if none of their numbers is
negative: such a number takes five bytes at most. -/
theorem fits_bulkRetr {ranges : List (Int32 × Int32)} (hlength : ranges.length < 2 ^ 60)
    (h : ∀ range ∈ ranges, 0 ≤ range.1 ∧ 0 ≤ range.2) : (bulkRetr ranges).Fits := by
  have hsize : UInt64.size = 2 ^ 64 := rfl
  have hoffsets : ∀ x ∈ ranges.map Prod.fst, 0 ≤ x := by
    simpa using fun a b hab => (h (a, b) hab).1
  have hlengths : ∀ x ∈ ranges.map Prod.snd, 0 ≤ x := by
    simpa using fun b a hab => (h (a, b) hab).2
  have hoffset := length_packInt32s_le hoffsets
  have hbulk := length_packInt32s_le hlengths
  rw [List.length_map] at hoffset hbulk
  refine ⟨(by decide : "".utf8ByteSize < UInt64.size), ?_, ?_⟩ <;> simp only [bulkRetr] <;> omega

end ServerMessage

/-- Every message is read back from its bytes, as long as their number has 64 bits, and it has as
many bytes as are announced. In particular a request for ranges still asks for these, in order and
with those that are empty. Whatever bytes a message was read from, it is read back from its own
bytes; the scanner's messages, whose words may be longer there, from no more bytes than a memory
has. -/
theorem messages_survive_wire :
    (∀ m : ClientMessage, m.encode.length = m.encodedLength ∧
      (m.encode.length < UInt64.size → ClientMessage.decode? m.encode = some m)) ∧
    (∀ m : ServerMessage, m.encode.length = m.encodedLength ∧
      (m.encode.length < UInt64.size → ServerMessage.decode? m.encode = some m)) ∧
    (∀ ranges : List (Int32 × Int32), ranges.length < 2 ^ 60 →
      (∀ range ∈ ranges, 0 ≤ range.1 ∧ 0 ≤ range.2) →
      (ServerMessage.decode? (ServerMessage.bulkRetr ranges).encode).map ServerMessage.ranges =
        some (.ok (ranges.map fun range => ⟨range.1, range.2⟩))) ∧
    (∀ bytes m, ClientMessage.decode? bytes = some m → ClientMessage.decode? m.encode = some m) ∧
    (∀ bytes m, bytes.length < 2 ^ 63 → ServerMessage.decode? bytes = some m →
      ServerMessage.decode? m.encode = some m) := by
  refine ⟨fun m => ⟨m.length_encode, fun h => ?_⟩, fun m => ⟨m.length_encode, fun h => ?_⟩,
    fun ranges hlength hranges => ?_, fun bytes m h => ?_, fun bytes m hlength h => ?_⟩
  · exact ClientMessage.decode?_encode (ClientMessage.fits_of_length h)
  · exact ServerMessage.decode?_encode (ServerMessage.fits_of_length h)
  · rw [ServerMessage.decode?_encode (ServerMessage.fits_bulkRetr hlength hranges), Option.map_some,
      ServerMessage.ranges_bulkRetr hranges]
  · exact ClientMessage.decode?_encode (ClientMessage.fits_of_decode? h)
  · exact ServerMessage.decode?_encode (ServerMessage.fits_of_decode? hlength h)

/-- Negative numbers, a stage and a command without a name, an empty tag, an empty range, and a
number that was padded on the wire. -/
theorem messages_survive_wire_negative :
    let client : ClientMessage :=
      { stage := 7, fileName := "é", size := -1, offset := -5, chunk := [0, 255],
        tags := ["", "a"] }
    let server : ServerMessage := { command := -2, bulkOffset := [0, -1], bulkLength := [0] }
    ClientMessage.decode? client.encode = some client ∧
      ServerMessage.decode? server.encode = some server ∧
      (ServerMessage.decode? (ServerMessage.bulkRetr [(0, 0), (2147483647, 5)]).encode).map
        ServerMessage.ranges = some (.ok [⟨0, 0⟩, ⟨2147483647, 5⟩]) ∧
      ClientMessage.decode? ({ stage := 7 } : ClientMessage).encode = some { stage := 7 } ∧
      ServerMessage.decode? ({ command := -1 } : ServerMessage).encode =
        some { command := -1 } := by
  obtain ⟨hclient, hserver, hranges, hagain, hagain'⟩ := messages_survive_wire
  -- Seven in two bytes, and minus one in five.
  have hpadded : ClientMessage.decode? [8, 135, 0] = some { stage := 7 } := by decide +kernel
  have hshort : ServerMessage.decode? [16, 255, 255, 255, 255, 15] = some { command := -1 } := by
    decide +kernel
  exact ⟨(hclient _).2 (by decide +kernel), (hserver _).2 (by decide +kernel),
    hranges [(0, 0), (2147483647, 5)] (by decide) (by simp), hagain _ _ hpadded,
    hagain' _ _ (by decide) hshort⟩

end MalwareScan.Wire
