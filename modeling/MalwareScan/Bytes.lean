/-!
# Byte sequences

Content, wire messages and handshakes are all lists of bytes. A ranged read is described by
`slice`, the part of a sequence that a range names as far as the sequence reaches, and by
`overwrite`, the effect of a read on the buffer it was given.
-/

namespace MalwareScan

/-- A finite sequence of bytes. -/
abbrev Bytes := List UInt8

namespace Bytes

/-- The bytes at positions `start`, `start + 1`, … of `data`, at most `count` of them. -/
def slice (data : Bytes) (start count : Nat) : Bytes :=
  (data.drop start).take count

/-- `buffer` after `front` was written over its beginning. -/
def overwrite (buffer front : Bytes) : Bytes :=
  front ++ buffer.drop front.length

/-- The low 16 bits of `n`, most significant byte first. -/
def ofUInt16 (n : UInt16) : Bytes :=
  [(n >>> 8).toUInt8, n.toUInt8]

/-- `word` as four bytes, most significant first. -/
def ofUInt32 (word : UInt32) : Bytes :=
  [(word >>> 24).toUInt8, (word >>> 16).toUInt8, (word >>> 8).toUInt8, word.toUInt8]

/-- `word` as eight bytes, most significant first. -/
def ofUInt64 (word : UInt64) : Bytes :=
  [(word >>> 56).toUInt8, (word >>> 48).toUInt8, (word >>> 40).toUInt8, (word >>> 32).toUInt8,
    (word >>> 24).toUInt8, (word >>> 16).toUInt8, (word >>> 8).toUInt8, word.toUInt8]

/-- The word whose bytes, most significant first, are `a`, `b`, `c`, `d`. -/
def toUInt32 (a b c d : UInt8) : UInt32 :=
  (a.toUInt32 <<< 24) ||| (b.toUInt32 <<< 16) ||| (c.toUInt32 <<< 8) ||| d.toUInt32

/-- The length of a slice is the number of bytes asked for, as far as the data reaches. -/
theorem length_slice (data : Bytes) (start count : Nat) :
    (data.slice start count).length = min count (data.length - start) := by
  simp [slice]

/-- A slice goes on where a shorter one from the same position ends. -/
theorem slice_append_slice (data : Bytes) (start : Nat) {count more : Nat} (h : count ≤ more) :
    data.slice start count ++
        data.slice (start + (data.slice start count).length)
          (more - (data.slice start count).length) =
      data.slice start more := by
  have hfront : data.slice start count =
      (data.drop start).take (data.slice start count).length := by
    rw [length_slice, slice, List.take_eq_take_iff, List.length_drop]
    omega
  have hmore :
      (data.slice start count).length + (more - (data.slice start count).length) = more := by
    rw [length_slice]
    omega
  calc data.slice start count ++ _
      = (data.drop start).take (data.slice start count).length ++
          ((data.drop start).drop (data.slice start count).length).take
            (more - (data.slice start count).length) := by
        rw [← hfront, List.drop_drop]
        rfl
    _ = data.slice start more := by rw [← List.take_add, hmore, slice]

/-- Writing nothing leaves the buffer as it was. -/
@[simp] theorem overwrite_nil (buffer : Bytes) : overwrite buffer [] = buffer := by
  simp [overwrite]

end Bytes

end MalwareScan
