import MalwareScan.Content.Basic

/-!
# What a read should give

A read gives the bytes of the content from its offset on, as many as its buffer holds and as the
content has. The length is counted in words and the buffer in bytes of memory; here both become
positions in the data.
-/

namespace MalwareScan

/-- What should be read, counted without words. -/
theorem readableLength_eq (length offset : UInt64) (capacity : Nat) :
    readableLength length offset capacity = min (length.toNat - offset.toNat) capacity := by
  unfold readableLength
  split
  · rename_i hle
    have := UInt64.le_iff_toNat_le.1 hle
    omega
  · rename_i hlt
    have hle : offset ≤ length := by
      rw [UInt64.le_iff_toNat_le] at hlt ⊢
      omega
    rw [UInt64.toNat_sub_of_le _ _ hle]

/-- The end of what can be read at an offset is a word. -/
theorem toNat_add_readableLength (length offset : UInt64) (capacity : Nat) :
    (offset + UInt64.ofNat (readableLength length offset capacity)).toNat =
      offset.toNat + readableLength length offset capacity := by
  have hmin := readableLength_eq length offset capacity
  have hoffset := offset.toNat_lt
  have hlength := length.toNat_lt
  have hfits : readableLength length offset capacity < UInt64.size := by
    show _ < 2 ^ 64
    omega
  rw [UInt64.toNat_add, UInt64.toNat_ofNat_of_lt' hfits, Nat.mod_eq_of_lt (by omega)]

/-- A buffer that is as long as what can be read is filled. -/
theorem readableLength_readableLength (length offset : UInt64) (capacity : Nat) :
    readableLength length offset (readableLength length offset capacity) =
      readableLength length offset capacity := by
  simp only [readableLength_eq]
  omega

/-- What can be read of the data at an offset is all that the buffer asks for, as far as the data
reaches. -/
theorem slice_readableLength {data : Bytes} {length : UInt64} (hlength : length.toNat = data.length)
    (offset : UInt64) (capacity : Nat) :
    data.slice offset.toNat (readableLength length offset capacity) =
      data.slice offset.toNat capacity := by
  rw [readableLength_eq, hlength, Nat.min_comm]
  simp [Bytes.slice, ← List.length_drop, List.take_eq_take_iff]

/-- The slice of what can be read has the length that was announced. -/
theorem length_slice_readableLength {data : Bytes} {length : UInt64}
    (hlength : length.toNat = data.length) (offset : UInt64) (capacity : Nat) :
    (data.slice offset.toNat (readableLength length offset capacity)).length =
      readableLength length offset capacity := by
  rw [Bytes.length_slice, readableLength_eq, hlength]
  omega

end MalwareScan
