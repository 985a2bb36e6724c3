import MalwareScan.Bytes

/-!
# Variable-length integers

A varint has seven bits of a 64-bit number in each byte, the low ones first. The high bit of a byte
says that another one follows. Numbers may be padded up to ten bytes.
-/

namespace MalwareScan.Wire.Varint

/-- The most bytes of a varint. -/
def maxBytes : Nat := 10

/-- The shortest varint for `n`. -/
def write (n : Nat) : Bytes :=
  if h : n < 128 then [UInt8.ofNat n] else UInt8.ofNat (n % 128 + 128) :: write (n / 128)
termination_by n

/-- How many bytes the shortest varint for `n` has. -/
def size (n : Nat) : Nat :=
  if h : n < 128 then 1 else size (n / 128) + 1
termination_by n

/-- A varint with at most `places` more bytes, and what follows it. The tenth byte of a number has
room for one bit. -/
def readFrom : Nat → Bytes → Option (Nat × Bytes)
  | 0, _ => none
  | _ + 1, [] => none
  | places + 1, b :: rest =>
    if b < 0x80 then
      if places = 0 ∧ 2 ≤ b then none else some (b.toNat, rest)
    else do
      let (high, rest) ← readFrom places rest
      some (b.toNat - 128 + 128 * high, rest)

/-- The varint at the beginning of `bytes`, and what follows it. -/
def read (bytes : Bytes) : Option (Nat × Bytes) :=
  readFrom maxBytes bytes

/-- The size of a varint is the number of bytes that are written. -/
theorem length_write (n : Nat) : (write n).length = size n := by
  induction n using write.induct with
  | case1 n h => rw [write, size]; simp [h]
  | case2 n h ih => rw [write, size]; simp [h, ih]

end MalwareScan.Wire.Varint
