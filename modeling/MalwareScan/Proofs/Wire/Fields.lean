import MalwareScan.Proofs.Text.Characters
import MalwareScan.Proofs.Wire.Ranges
import MalwareScan.Proofs.Wire.Records

/-!
# Fields of messages

A field is written as records, or as none if it has its default value. For each type of field this
module says how long it is (`length_writeInt32` and so on), which records it spells
(`spells_writeInt32`), and what a message makes of them (`foldlM_ofInt32`).
-/

namespace MalwareScan.Wire

variable {number : Nat}

/-! ## Words -/

/-- The number of a word of 32 bits has 64 bits. -/
theorem int32Number_lt (x : Int32) : int32Number x < UInt64.size :=
  x.toInt64.toUInt64.toNat_lt

/-- The number of a word of 64 bits has as many. -/
theorem int64Number_lt (x : Int64) : int64Number x < UInt64.size :=
  x.toUInt64.toNat_lt

/-- A word of 32 bits is read back from its number. -/
theorem int32Of_int32Number (x : Int32) : int32Of (int32Number x) = x := by
  have hlow : int32Of (int32Number x) = x.toInt64.toInt32 := by
    apply Int32.toBitVec_inj.1
    have htoNat : int32Number x = x.toInt64.toBitVec.toNat := rfl
    rw [int32Of, Int32.toBitVec_ofNat', Int64.toBitVec_toInt32, htoNat, BitVec.ofNat_toNat,
      BitVec.signExtend_eq_setWidth_of_le _ (by decide)]
  rw [hlow, Int32.toInt32_toInt64]

/-- A word of 64 bits is read back from its number. -/
theorem int64Of_int64Number (x : Int64) : int64Of (int64Number x) = x := by
  apply Int64.toBitVec_inj.1
  simp [int64Of, int64Number]

/-- The value of the word of the low 32 bits of a number. -/
theorem toInt_int32Of (n : Nat) : (int32Of n).toInt = Int.bmod n (2 ^ 32) :=
  Int32.toInt_ofNat'

/-- A word that is not negative is written with no more bits than it was read from. -/
theorem int32Number_int32Of_le {n : Nat} (h : 0 ≤ int32Of n) : int32Number (int32Of n) ≤ n := by
  have hle : (int32Of n).toInt ≤ n := by
    rw [toInt_int32Of, Int.bmod]
    split <;> omega
  rw [int32Number, ByteRange.toNat_toUInt64_toInt64 h]
  omega

/-- A negative word is only read from a number that is long by itself. -/
theorem le_of_int32Of_neg {n : Nat} (h : ¬ 0 ≤ int32Of n) : 128 ^ 4 ≤ n := by
  rw [Int32.le_iff_toInt_le, toInt_int32Of, Int.bmod] at h
  have hzero : (0 : Int32).toInt = 0 := rfl
  split at h <;> omega

/-- A word is written with at most twice the bytes that it was read from: ten if it is negative, but
then it was read from five at least. -/
theorem size_int32Number_int32Of (n : Nat) :
    Varint.size (int32Number (int32Of n)) ≤ 2 * Varint.size n := by
  by_cases h : 0 ≤ int32Of n
  · have hsize := Varint.size_le_size (int32Number_int32Of_le h)
    omega
  · have hlong : ¬ Varint.size n ≤ 3 + 1 := by
      rw [Varint.size_le_iff]
      exact Nat.not_lt.2 (le_of_int32Of_neg h)
    have hten : Varint.size (int32Number (int32Of n)) ≤ 9 + 1 :=
      Varint.size_le_iff.2 (Nat.lt_trans (int32Number_lt _) (by decide))
    omega

/-! ## Lengths -/

/-- The length of a text in bytes. -/
theorem length_encode_text (s : String) : (Text.Utf8.encode s).length = s.utf8ByteSize := by
  simp [Text.Utf8.encode]

@[simp] theorem length_writeVarint (number value : Nat) :
    (writeVarint number value).length = sizeVarint number value := by
  simp [writeVarint, sizeVarint, Varint.length_write]

@[simp] theorem length_writeDelimited (number : Nat) (bytes : Bytes) :
    (writeDelimited number bytes).length = sizeDelimited number bytes.length := by
  simp [writeDelimited, sizeDelimited, Varint.length_write, Nat.add_assoc]

@[simp] theorem length_writeInt32 (number : Nat) (x : Int32) :
    (writeInt32 number x).length = sizeInt32 number x := by
  unfold writeInt32 sizeInt32
  split <;> simp

@[simp] theorem length_writeInt64 (number : Nat) (x : Int64) :
    (writeInt64 number x).length = sizeInt64 number x := by
  unfold writeInt64 sizeInt64
  split <;> simp

@[simp] theorem length_writeBool (number : Nat) (b : Bool) :
    (writeBool number b).length = sizeBool number b := by
  unfold writeBool sizeBool
  split <;> simp

@[simp] theorem length_writeBytes (number : Nat) (bytes : Bytes) :
    (writeBytes number bytes).length = sizeBytes number bytes := by
  unfold writeBytes sizeBytes
  split <;> simp

@[simp] theorem length_writeText (number : Nat) (s : String) :
    (writeText number s).length = sizeText number s := by
  have hempty : (Text.Utf8.encode s).isEmpty = decide (s.utf8ByteSize = 0) := by
    rw [← length_encode_text]
    cases Text.Utf8.encode s <;> simp
  simp only [writeText, length_writeBytes, sizeBytes, sizeText, hempty, length_encode_text,
    decide_eq_true_eq]

@[simp] theorem length_writeTexts (number : Nat) (texts : List String) :
    (writeTexts number texts).length = sizeTexts number texts := by
  induction texts with
  | nil => rfl
  | cons s texts ih =>
      rw [writeTexts] at ih ⊢
      rw [List.flatMap_cons, List.length_append, ih, length_writeDelimited, length_encode_text]
      rfl

/-- The length of packed words. -/
theorem length_packInt32s (xs : List Int32) :
    (packInt32s xs).length = xs.foldr (fun x size => Varint.size (int32Number x) + size) 0 := by
  induction xs with
  | nil => rfl
  | cons x xs ih =>
      rw [packInt32s] at ih ⊢
      rw [List.flatMap_cons, List.length_append, ih, Varint.length_write]
      rfl

@[simp] theorem length_writeInt32s (number : Nat) (xs : List Int32) :
    (writeInt32s number xs).length = sizeInt32s number xs := by
  unfold writeInt32s sizeInt32s
  split
  · rfl
  · rw [length_writeDelimited, length_packInt32s]

/-- A field is not shorter than its bytes. -/
theorem length_le_sizeBytes (number : Nat) (bytes : Bytes) :
    bytes.length ≤ sizeBytes number bytes := by
  unfold sizeBytes
  split
  · rename_i hempty
    exact Nat.le_of_eq (List.length_eq_zero_iff.2 (List.isEmpty_iff.1 hempty))
  · exact Nat.le_add_left _ _

/-- A field is not shorter than its text. -/
theorem utf8ByteSize_le_sizeText (number : Nat) (s : String) :
    s.utf8ByteSize ≤ sizeText number s := by
  rw [← length_encode_text, ← length_writeText, writeText, length_writeBytes]
  exact length_le_sizeBytes number _

/-- A field is not shorter than any of its texts. -/
theorem utf8ByteSize_le_sizeTexts (number : Nat) {s : String} {texts : List String}
    (h : s ∈ texts) : s.utf8ByteSize ≤ sizeTexts number texts := by
  have hmem : writeDelimited number (Text.Utf8.encode s) ∈
      texts.map fun s => writeDelimited number (Text.Utf8.encode s) := List.mem_map_of_mem h
  have hsub := (List.sublist_flatten_of_mem hmem).length_le
  rw [← List.flatMap_def, ← writeTexts, length_writeTexts, length_writeDelimited,
    length_encode_text] at hsub
  exact Nat.le_trans (Nat.le_add_left _ _) hsub

/-- A field is not shorter than its packed words. -/
theorem length_packInt32s_le_sizeInt32s (number : Nat) (xs : List Int32) :
    (packInt32s xs).length ≤ sizeInt32s number xs := by
  cases xs with
  | nil => exact Nat.zero_le _
  | cons x xs =>
      rw [length_packInt32s]
      exact Nat.le_add_left _ _

/-! ## Packed words -/

/-- Packed words stand one after the other. -/
theorem packInt32s_cons (x : Int32) (xs : List Int32) :
    packInt32s (x :: xs) = Varint.write (int32Number x) ++ packInt32s xs :=
  List.flatMap_cons

/-- Packed words can be put together. -/
theorem packInt32s_append (xs ys : List Int32) :
    packInt32s (xs ++ ys) = packInt32s xs ++ packInt32s ys :=
  List.flatMap_append

/-- Words that are not negative have five bytes at most. -/
theorem length_packInt32s_le {xs : List Int32} (h : ∀ x ∈ xs, 0 ≤ x) :
    (packInt32s xs).length ≤ 5 * xs.length := by
  induction xs with
  | nil => exact Nat.le_refl 0
  | cons x xs ih =>
      obtain ⟨hx, hxs⟩ := List.forall_mem_cons.1 h
      have hfive : Varint.size (int32Number x) ≤ 4 + 1 := by
        have hlt := x.toInt_lt
        rw [Varint.size_le_iff, int32Number, ByteRange.toNat_toUInt64_toInt64 hx]
        omega
      have hrest := ih hxs
      rw [packInt32s_cons, List.length_append, Varint.length_write, List.length_cons]
      omega

namespace Payload

variable {payload : Payload} {fuel : Nat} {bytes : Bytes} {xs : List Int32}

/-- Packed words are read back. -/
theorem unpackFuel_packInt32s (xs : List Int32) (h : (packInt32s xs).length ≤ fuel) :
    unpackFuel fuel (packInt32s xs) = some xs := by
  induction xs generalizing fuel with
  | nil => cases fuel <;> rfl
  | cons x xs ih =>
      have hsize := Varint.size_pos (int32Number x)
      rw [packInt32s_cons] at h ⊢
      rw [List.length_append, Varint.length_write] at h
      have hne : Varint.write (int32Number x) ++ packInt32s xs ≠ [] := by
        rw [← List.length_pos_iff, List.length_append, Varint.length_write]
        omega
      cases fuel with
      | zero => omega
      | succ fuel =>
          rw [unpackFuel.eq_3 _ _ hne, Varint.read_write (int32Number_lt x)]
          simp only [Option.bind_eq_bind, Option.bind_some]
          rw [ih (by omega), Option.bind_some, int32Of_int32Number]

/-- The words that are read are written with at most twice the bytes. -/
theorem length_packInt32s_unpackFuel (h : unpackFuel fuel bytes = some xs) :
    (packInt32s xs).length ≤ 2 * bytes.length := by
  induction fuel generalizing bytes xs with
  | zero =>
      cases bytes with
      | nil =>
          cases h
          exact Nat.zero_le _
      | cons b tail => cases h
  | succ fuel ih =>
      cases bytes with
      | nil =>
          cases h
          exact Nat.zero_le _
      | cons b tail =>
          rw [unpackFuel.eq_3 _ _ (List.cons_ne_nil b tail)] at h
          simp only [Option.bind_eq_bind, Option.bind_eq_some_iff, Option.some.injEq,
            Prod.exists] at h
          obtain ⟨n, rest, hread, ys, hys, rfl⟩ := h
          have hfirst : Varint.size n + rest.length ≤ (b :: tail).length :=
            Varint.size_add_length_le hread
          have hword := size_int32Number_int32Of n
          have hmore := ih hys
          rw [packInt32s_cons, List.length_append, Varint.length_write]
          omega

/-- The words that a record adds are written with at most twice the bytes that it takes. -/
theorem length_packInt32s_le_size (h : payload.int32s? = some xs) :
    (packInt32s xs).length ≤ 2 * payload.size := by
  cases payload with
  | varint n =>
      cases h
      rw [packInt32s_cons, List.length_append, Varint.length_write]
      exact size_int32Number_int32Of n
  | delimited bytes => exact length_packInt32s_unpackFuel h
  | fixed64 | group | fixed32 => cases h

/-- The bytes of a payload are not longer than its length can say. -/
theorem Fits.length_lt (h : payload.Fits) (hbytes : payload.bytes? = some bytes) :
    bytes.length < UInt64.size := by
  cases payload with
  | delimited => exact Option.some.inj hbytes ▸ h
  | varint | fixed64 | group | fixed32 => cases hbytes

/-- Nor is the text of a payload. -/
theorem Fits.utf8ByteSize_lt (h : payload.Fits) {s : String} (htext : payload.text? = some s) :
    s.utf8ByteSize < UInt64.size := by
  obtain ⟨bytes, hbytes, hdecode⟩ := Option.bind_eq_some_iff.1 htext
  rw [← length_encode_text, Text.Utf8.encode_of_decode? hdecode]
  exact h.length_lt hbytes

end Payload

/-! ## Records of fields -/

namespace Record

/-- The record of a field, or none if the field is left out. -/
def omitIf (p : Prop) [Decidable p] (record : Record) : List Record :=
  if p then [] else [record]

/-- The records of a field of type `int32`. -/
def ofInt32 (number : Nat) (x : Int32) : List Record :=
  omitIf (x = 0) ⟨number, .varint (int32Number x)⟩

/-- The records of a field of type `int64`. -/
def ofInt64 (number : Nat) (x : Int64) : List Record :=
  omitIf (x = 0) ⟨number, .varint (int64Number x)⟩

/-- The records of a field of type `bool`. -/
def ofBool (number : Nat) (b : Bool) : List Record :=
  omitIf (b = false) ⟨number, .varint 1⟩

/-- The records of a field of type `bytes`. -/
def ofBytes (number : Nat) (bytes : Bytes) : List Record :=
  omitIf (bytes.isEmpty = true) ⟨number, .delimited bytes⟩

/-- The records of a field of type `string`. -/
def ofText (number : Nat) (s : String) : List Record :=
  ofBytes number (Text.Utf8.encode s)

/-- The records of a repeated field of type `string`. -/
def ofTexts (number : Nat) (texts : List String) : List Record :=
  texts.map fun s => ⟨number, .delimited (Text.Utf8.encode s)⟩

/-- The records of a repeated field of type `int32`. -/
def ofInt32s (number : Nat) (xs : List Int32) : List Record :=
  omitIf (xs.isEmpty = true) ⟨number, .delimited (packInt32s xs)⟩

variable {p : Prop} [Decidable p] {record : Record}

/-- A field that may be left out spells its record if it is not. -/
theorem Spells.omitIf {bytes : Bytes} (h : Spells bytes [record]) :
    Spells (if p then [] else bytes) (omitIf p record) := by
  unfold Record.omitIf
  split
  · exact spells_nil
  · exact h

section Spells

variable (hnumber : IsFieldNumber number)

include hnumber

theorem spells_writeInt32 (x : Int32) : Spells (writeInt32 number x) (ofInt32 number x) :=
  (spells_writeVarint hnumber (int32Number_lt x)).omitIf

theorem spells_writeInt64 (x : Int64) : Spells (writeInt64 number x) (ofInt64 number x) :=
  (spells_writeVarint hnumber (int64Number_lt x)).omitIf

theorem spells_writeBool (b : Bool) : Spells (writeBool number b) (ofBool number b) := by
  cases b with
  | false => exact spells_nil
  | true => exact spells_writeVarint hnumber (by decide)

theorem spells_writeBytes {bytes : Bytes} (h : bytes.length < UInt64.size) :
    Spells (writeBytes number bytes) (ofBytes number bytes) :=
  (spells_writeDelimited hnumber h).omitIf

theorem spells_writeText {s : String} (h : s.utf8ByteSize < UInt64.size) :
    Spells (writeText number s) (ofText number s) :=
  spells_writeBytes hnumber (by rwa [length_encode_text])

theorem spells_writeTexts {texts : List String} (h : ∀ s ∈ texts, s.utf8ByteSize < UInt64.size) :
    Spells (writeTexts number texts) (ofTexts number texts) := by
  induction texts with
  | nil => exact spells_nil
  | cons s texts ih =>
      obtain ⟨hs, htexts⟩ := List.forall_mem_cons.1 h
      exact Spells.append (spells_writeDelimited hnumber (by rwa [length_encode_text])) (ih htexts)

theorem spells_writeInt32s {xs : List Int32} (h : (packInt32s xs).length < UInt64.size) :
    Spells (writeInt32s number xs) (ofInt32s number xs) :=
  (spells_writeDelimited hnumber h).omitIf

end Spells

/-! ## Setting fields

A field is set by its records. One that is left out leaves the message as it is, which then must
have the default value there. `set` is how the message is changed, and `get` what it has in the
field. -/

section Folds

variable {M : Type} {add : M → Record → Option M} {m m' : M}

/-- A record that may be left out changes the message if it is not. -/
theorem foldlM_omitIf (hunset : p → m = m') (hset : ¬ p → add m record = some m') :
    (omitIf p record).foldlM add m = some m' := by
  unfold omitIf
  split
  · rename_i hp
    rw [List.foldlM_nil, hunset hp]
    rfl
  · rename_i hp
    rw [List.foldlM_cons, hset hp]
    rfl

theorem foldlM_ofInt32 (set : M → Int32 → M)
    (hadd : ∀ m payload, add m ⟨number, payload⟩ = payload.int32?.map (set m))
    (hdefault : set m 0 = m) (x : Int32) :
    (ofInt32 number x).foldlM add m = some (set m x) := by
  refine foldlM_omitIf (fun hzero => by rw [hzero, hdefault]) fun _ => ?_
  have hread : (Payload.varint (int32Number x)).int32? = some x :=
    congrArg some (int32Of_int32Number x)
  rw [hadd, hread]
  rfl

theorem foldlM_ofInt64 (set : M → Int64 → M)
    (hadd : ∀ m payload, add m ⟨number, payload⟩ =
      payload.number?.map fun n => set m (int64Of n))
    (hdefault : set m 0 = m) (x : Int64) :
    (ofInt64 number x).foldlM add m = some (set m x) := by
  refine foldlM_omitIf (fun hzero => by rw [hzero, hdefault]) fun _ => ?_
  have hread : (Payload.varint (int64Number x)).number? = some (int64Number x) := rfl
  rw [hadd, hread, Option.map_some, int64Of_int64Number]

theorem foldlM_ofBool (set : M → Bool → M)
    (hadd : ∀ m payload, add m ⟨number, payload⟩ = payload.bool?.map (set m))
    (hdefault : set m false = m) (b : Bool) :
    (ofBool number b).foldlM add m = some (set m b) := by
  refine foldlM_omitIf (fun hfalse => by rw [hfalse, hdefault]) fun htrue => ?_
  rw [hadd, eq_true_of_ne_false htrue]
  rfl

theorem foldlM_ofBytes (set : M → Bytes → M)
    (hadd : ∀ m payload, add m ⟨number, payload⟩ = payload.bytes?.map (set m))
    (hdefault : set m [] = m) (bytes : Bytes) :
    (ofBytes number bytes).foldlM add m = some (set m bytes) := by
  refine foldlM_omitIf (fun hempty => ?_) fun _ => hadd m (.delimited bytes)
  rw [List.isEmpty_iff.1 hempty, hdefault]

theorem foldlM_ofText (set : M → String → M)
    (hadd : ∀ m payload, add m ⟨number, payload⟩ = payload.text?.map (set m))
    (hdefault : set m "" = m) (s : String) :
    (ofText number s).foldlM add m = some (set m s) := by
  refine foldlM_omitIf (fun hempty => ?_) fun _ => ?_
  · have hsize : s.utf8ByteSize = 0 := by
      rw [← length_encode_text, List.isEmpty_iff.1 hempty, List.length_nil]
    rw [String.utf8ByteSize_eq_zero_iff.1 hsize, hdefault]
  · have hread : (Payload.delimited (Text.Utf8.encode s)).text? = some s :=
      Text.Utf8.decode?_encode s
    rw [hadd, hread]
    rfl

theorem foldlM_ofTexts (get : M → List String) (set : M → List String → M)
    (hadd : ∀ m payload, add m ⟨number, payload⟩ =
      payload.text?.map fun s => set m (get m ++ [s]))
    (hget : ∀ texts, get (set m texts) = texts)
    (hset : ∀ texts more, set (set m texts) more = set m more)
    (hdefault : set m [] = m) (texts : List String) :
    (ofTexts number texts).foldlM add m = some (set m texts) := by
  -- Each text is added to those before it.
  have hfrom : ∀ before, (ofTexts number texts).foldlM add (set m before) =
      some (set m (before ++ texts)) := by
    induction texts with
    | nil =>
        intro before
        rw [List.append_nil]
        rfl
    | cons s texts ih =>
        intro before
        have hread : (Payload.delimited (Text.Utf8.encode s)).text? = some s :=
          Text.Utf8.decode?_encode s
        have hmore := ih (before ++ [s])
        rw [List.append_assoc, List.singleton_append] at hmore
        rw [ofTexts, List.map_cons, List.foldlM_cons, hadd, hread, Option.map_some, hget, hset]
        exact hmore
  simpa [hdefault] using hfrom []

theorem foldlM_ofInt32s (get : M → List Int32) (set : M → List Int32 → M)
    (hadd : ∀ m payload, add m ⟨number, payload⟩ =
      payload.int32s?.map fun xs => set m (get m ++ xs))
    (hget : get m = []) (hdefault : set m [] = m) (xs : List Int32) :
    (ofInt32s number xs).foldlM add m = some (set m xs) := by
  refine foldlM_omitIf (fun hempty => ?_) fun _ => ?_
  · rw [List.isEmpty_iff.1 hempty, hdefault]
  · have hread : (Payload.delimited (packInt32s xs)).int32s? = some xs :=
      Payload.unpackFuel_packInt32s xs (Nat.le_refl _)
    rw [hadd, hread, hget]
    rfl

section Kept

variable {P : Nat → M → Prop}
  (hadd : ∀ n m record m', P n m → record.payload.Fits → add m record = some m' →
    P (n + record.payload.size) m')

include hadd

/-- What every record keeps, with the number of bytes read so far, all records keep. -/
theorem kept_of_foldlM {records : List Record} (hfits : ∀ record ∈ records, record.payload.Fits)
    {n : Nat} (hstart : P n m) (h : records.foldlM add m = some m') :
    P (n + (records.map fun record => record.payload.size).sum) m' := by
  induction records generalizing n m with
  | nil =>
      cases h
      exact hstart
  | cons record records ih =>
      obtain ⟨hrecord, hrecords⟩ := List.forall_mem_cons.1 hfits
      rw [List.foldlM_cons] at h
      obtain ⟨next, hnext, hlater⟩ := Option.bind_eq_some_iff.1 h
      have hkept := ih hrecords (hadd n m record next hstart hrecord hnext) hlater
      rw [Nat.add_assoc, ← List.sum_cons] at hkept
      exact hkept

/-- What every record keeps holds of a message that was read from bytes, with a number of bytes that
is no greater than theirs. -/
theorem kept_of_read {bytes : Bytes} (hstart : P 0 m)
    (h : ((readAll bytes).bind fun records => records.foldlM add m) = some m') :
    ∃ n ≤ bytes.length, P n m' := by
  obtain ⟨records, hread, hfold⟩ := Option.bind_eq_some_iff.1 h
  obtain ⟨hsum, hfits⟩ := readAll_bounds hread
  have hkept := kept_of_foldlM hadd hfits hstart hfold
  rw [Nat.zero_add] at hkept
  exact ⟨_, hsum, hkept⟩

end Kept

/-- Records that are added one after the other. -/
theorem foldlM_append_of {records more : List Record} {result : Option M}
    (h : records.foldlM add m = some m') (hmore : more.foldlM add m' = result) :
    (records ++ more).foldlM add m = result := by
  rw [List.foldlM_append, h]
  exact hmore

end Folds

end Record

end MalwareScan.Wire
