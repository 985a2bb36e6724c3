import MalwareScan.Bytes

/-!
# Hashing by blocks

Both digests of content work the same way: the content is followed by a single set bit, zeros and
its length in bits, and is then folded block by block into a state. `Stream` does so for content
that arrives in parts. Main statement: `Stream.update_append`, feeding two parts one after the other
is feeding them joined, so a digest depends on the content alone.
-/

namespace MalwareScan.Digest

/-- The bytes in a block. -/
def blockSize : Nat := 64

/-- A hash function over blocks: its first state, how a block changes a state, and the digest that a
state stands for. -/
structure BlockHash (σ : Type) where
  start : σ
  compress : σ → Bytes → σ
  output : σ → Bytes

variable {σ : Type}

/-- Fold every whole block at the beginning of `bytes` into `state`; the rest is left over. -/
def absorb (compress : σ → Bytes → σ) (state : σ) (bytes : Bytes) : σ × Bytes :=
  if (bytes.take blockSize).length = blockSize then
    absorb compress (compress state (bytes.take blockSize)) (bytes.drop blockSize)
  else (state, bytes)
termination_by bytes.length
decreasing_by simp [blockSize] at *; omega

/-- A digest under way: the state after the whole blocks so far, the bytes that fill no block yet,
and how many bytes there were. -/
structure Stream (σ : Type) where
  state : σ
  pending : Bytes
  length : Nat

namespace Stream

/-- A digest of nothing so far. -/
def new (hash : BlockHash σ) : Stream σ :=
  ⟨hash.start, [], 0⟩

/-- Feed more content. -/
def update (hash : BlockHash σ) (stream : Stream σ) (data : Bytes) : Stream σ :=
  let rest := absorb hash.compress stream.state (stream.pending ++ data)
  ⟨rest.1, rest.2, stream.length + data.length⟩

/-- What follows content of `length` bytes: a set bit, zeros up to eight bytes before the end of a
block, and the length in bits. -/
def padding (length : Nat) : Bytes :=
  0x80 :: List.replicate ((119 - length % 64) % 64) 0 ++
    Bytes.ofUInt64 (UInt64.ofNat (8 * length))

/-- The digest of the content fed so far. -/
def finish (hash : BlockHash σ) (stream : Stream σ) : Bytes :=
  hash.output (absorb hash.compress stream.state (stream.pending ++ padding stream.length)).1

end Stream

/-- The digest of `data`. -/
def BlockHash.digest (hash : BlockHash σ) (data : Bytes) : Bytes :=
  ((Stream.new hash).update hash data).finish hash

/-- Whole blocks that are folded in first do not depend on what comes after them. -/
theorem absorb_append (compress : σ → Bytes → σ) (state : σ) (a b : Bytes) :
    absorb compress state (a ++ b) =
      absorb compress (absorb compress state a).1 ((absorb compress state a).2 ++ b) := by
  induction state, a using absorb.induct compress with
  | case1 state a h ih =>
    have hl : blockSize ≤ a.length := by simp at h; omega
    have ht : (a ++ b).take blockSize = a.take blockSize := List.take_append_of_le_length hl
    have hd : (a ++ b).drop blockSize = a.drop blockSize ++ b := List.drop_append_of_le_length hl
    have hab : absorb compress state (a ++ b) =
        absorb compress (compress state (a.take blockSize)) (a.drop blockSize ++ b) := by
      rw [absorb, if_pos (by rw [ht]; exact h), ht, hd]
    have ha : absorb compress state a =
        absorb compress (compress state (a.take blockSize)) (a.drop blockSize) := by
      rw [absorb, if_pos h]
    rw [hab, ih, ha]
  | case2 state a h =>
    have ha : absorb compress state a = (state, a) := by rw [absorb, if_neg h]
    rw [ha]

namespace Stream

/-- To feed nothing at first changes nothing. -/
theorem update_new_nil (hash : BlockHash σ) : (new hash).update hash [] = new hash := by
  have hnone : absorb hash.compress hash.start [] = (hash.start, []) := by
    rw [absorb, if_neg (by decide)]
  rw [update, new, List.append_nil, hnone]
  rfl

/-- Two parts fed one after the other are the two joined. -/
theorem update_append (hash : BlockHash σ) (stream : Stream σ) (a b : Bytes) :
    stream.update hash (a ++ b) = (stream.update hash a).update hash b := by
  simp only [update, List.length_append, ← List.append_assoc]
  rw [absorb_append, Nat.add_assoc]

end Stream

end MalwareScan.Digest
