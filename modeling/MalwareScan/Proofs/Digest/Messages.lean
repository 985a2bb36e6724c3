import MalwareScan.Digest.Block

/-!
# Digests of whole messages

The standards define a digest on the whole message: its content and padding are cut into blocks, and
these are folded into a state (`BlockHash.ofMessage`). A stream that is fed the content in any parts
arrives at the same digest, `Stream.finish_foldl_update`: it folds in every block as soon as it is
there (`absorb_eq`), and with the padding nothing is left over (`dvd_length_padded`).
-/

namespace MalwareScan.Digest

variable {σ : Type} {bytes : Bytes}

/-- The whole blocks of `bytes`. -/
def blocks (bytes : Bytes) : List Bytes :=
  (List.range (bytes.length / blockSize)).map fun i => bytes.slice (blockSize * i) blockSize

/-- The digest of a message that is there as a whole. -/
def BlockHash.ofMessage (hash : BlockHash σ) (message : Bytes) : Bytes :=
  hash.output
    ((blocks (message ++ Stream.padding message.length)).foldl hash.compress hash.start)

/-- What is shorter than a block has none. -/
theorem blocks_of_lt (h : bytes.length < blockSize) : blocks bytes = [] := by
  rw [blocks, Nat.div_eq_of_lt h]
  rfl

/-- Otherwise the first block stands in front of those of the rest. -/
theorem blocks_of_le (h : blockSize ≤ bytes.length) :
    blocks bytes = bytes.take blockSize :: blocks (bytes.drop blockSize) := by
  rw [blocks, blocks, List.length_drop, Nat.div_eq_sub_div (by decide) h, List.range_succ_eq_map,
    List.map_cons, List.map_map]
  congr 1
  -- The further blocks stand one block earlier in the rest.
  apply List.map_congr_left
  intro i _
  show (bytes.drop _).take blockSize = ((bytes.drop blockSize).drop _).take blockSize
  rw [List.drop_drop, Nat.mul_succ, Nat.add_comm]

/-- Absorbing folds the whole blocks into the state, one after the other, and leaves what follows
them. -/
theorem absorb_eq (compress : σ → Bytes → σ) (state : σ) (bytes : Bytes) :
    absorb compress state bytes =
      ((blocks bytes).foldl compress state,
        bytes.drop (blockSize * (bytes.length / blockSize))) := by
  induction state, bytes using absorb.induct compress with
  | case1 state bytes hwhole ih =>
      have hle : blockSize ≤ bytes.length := by
        rw [List.length_take] at hwhole
        omega
      rw [absorb, if_pos hwhole, ih, blocks_of_le hle, List.foldl_cons, List.drop_drop,
        List.length_drop, Nat.div_eq_sub_div (by decide) hle, Nat.mul_succ, Nat.add_comm]
  | case2 state bytes hshort =>
      have hlt : bytes.length < blockSize := by
        rw [List.length_take] at hshort
        omega
      rw [absorb, if_neg hshort, blocks_of_lt hlt, Nat.div_eq_of_lt hlt]
      rfl

/-- A padded message consists of whole blocks. -/
theorem dvd_length_padded (message : Bytes) :
    blockSize ∣ (message ++ Stream.padding message.length).length := by
  have hword : ∀ word, (Bytes.ofUInt64 word).length = 8 := fun _ => rfl
  simp only [Stream.padding, List.length_append, List.length_cons, List.length_replicate, hword,
    blockSize]
  omega

/-- So nothing is left over of it. -/
theorem absorb_padded (hash : BlockHash σ) (message : Bytes) :
    absorb hash.compress hash.start (message ++ Stream.padding message.length) =
      ((blocks (message ++ Stream.padding message.length)).foldl hash.compress hash.start, []) := by
  rw [absorb_eq, Nat.mul_div_cancel' (dvd_length_padded message), List.drop_length]

namespace Stream

/-- The digest of a message that is fed at once is that of the message. -/
theorem finish_update (hash : BlockHash σ) (message : Bytes) :
    ((new hash).update hash message).finish hash = hash.ofMessage message := by
  show hash.output (absorb hash.compress (absorb hash.compress hash.start message).1
    ((absorb hash.compress hash.start message).2 ++ padding (0 + message.length))).1 = _
  rw [Nat.zero_add, ← absorb_append, absorb_padded]
  rfl

/-- Feeding more parts after some content is feeding them joined. -/
theorem foldl_update (hash : BlockHash σ) (stream : Stream σ) (front : Bytes) (parts : List Bytes) :
    parts.foldl (update hash) (stream.update hash front) =
      stream.update hash (front ++ parts.flatten) := by
  induction parts generalizing front with
  | nil => rw [List.foldl_nil, List.flatten_nil, List.append_nil]
  | cons part parts ih =>
      rw [List.foldl_cons, ← update_append, ih, List.flatten_cons, List.append_assoc]

/-- The digest of a message that is fed in parts, empty ones among them, is that of the message. -/
theorem finish_foldl_update (hash : BlockHash σ) (parts : List Bytes) :
    (parts.foldl (update hash) (new hash)).finish hash = hash.ofMessage parts.flatten := by
  rw [← update_new_nil, foldl_update, List.nil_append, finish_update]

end Stream

end MalwareScan.Digest
