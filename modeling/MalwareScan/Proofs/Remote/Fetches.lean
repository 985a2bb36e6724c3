import MalwareScan.Proofs.Remote.RangedReads

/-!
# What a read of a remote object fetches

A store may answer a fetch with anything. `RemoteObject.readIn` is a ranged read whose fetch has
effects, and `readIn_recorded` says that with a record of its fetches it is `RemoteObject.read`,
and that the record is what `RemoteObject.range?` announces. The main theorem is
`reads_by_one_fetch`: the positions that are fetched, what the answer makes of the buffer, and
that no word wraps around.
-/

namespace MalwareScan.RemoteObject

variable {object : RemoteObject} {offset : UInt64} {capacity : Nat}

/-- A ranged read whose fetch has effects. -/
def readIn {m : Type → Type} [Monad m] (object : RemoteObject)
    (fetch : (first last : UInt64) → m (Outcome Bytes)) (offset : UInt64) (capacity : Nat) :
    m Read :=
  match object.range? offset capacity with
  | none => pure (.of [])
  | some (first, last) => do
    let answer ← fetch first last
    pure (object.accept offset capacity answer)

/-- The positions that were fetched, in order. -/
abbrev Fetches := List (UInt64 × UInt64)

/-- A fetch that is put on record. -/
def recorded (store : ObjectStore) (first last : UInt64) : StateM Fetches (Outcome Bytes) := do
  modify (· ++ [(first, last)])
  pure (store.fetch first last)

/-- A read over a store, and the fetches it makes. -/
theorem readIn_recorded (object : RemoteObject) (store : ObjectStore) (offset : UInt64)
    (capacity : Nat) (past : Fetches) :
    (object.readIn (recorded store) offset capacity).run past =
      (object.read store offset capacity, past ++ (object.range? offset capacity).toList) := by
  unfold readIn read
  cases object.range? offset capacity with
  | none => exact congrArg (Prod.mk _) (List.append_nil past).symm
  | some bounds => rfl

/-! ## What becomes of an answer -/

/-- What a read of `want` bytes into the buffer `before` makes of the answer to its fetch. The
beginning of an answer that is long enough is copied over the beginning of the buffer; an answer
that is too short is an unexpected end, and the error of a store is passed on, both without
touching the buffer. -/
inductive Takes (want : Nat) (before : Bytes) : Outcome Bytes → Read → Prop where
  | enough (bytes : Bytes) (read : Read) : want ≤ bytes.length → read.outcome = .ok want →
      read.buffer before = bytes.take want ++ before.drop want → Takes want before (.ok bytes) read
  | short (bytes : Bytes) (read : Read) (fault : IoFault) : bytes.length < want →
      fault.kind = .unexpectedEof → read.outcome = .error (.io fault) →
      read.buffer before = before → Takes want before (.ok bytes) read
  | failed (e : Error) (read : Read) : read.outcome = .error e → read.buffer before = before →
      Takes want before (.error e) read

/-- A read that fails leaves the buffer as it was. -/
theorem buffer_failed (e : Error) (before : Bytes) : (Read.failed e).buffer before = before :=
  Bytes.overwrite_nil before

/-- A read accepts the answer to its fetch as it should. -/
theorem takes_accept (object : RemoteObject) (offset : UInt64) (before : Bytes)
    (answer : Outcome Bytes) :
    Takes (readableLength object.length offset before.length) before answer
      (object.accept offset before.length answer) := by
  unfold accept
  cases answer with
  | error e => exact .failed e _ rfl (buffer_failed e before)
  | ok bytes =>
      by_cases hshort : bytes.length < readableLength object.length offset before.length
      · simp only [if_pos hshort]
        exact .short bytes _ _ hshort rfl rfl (buffer_failed _ before)
      · simp only [if_neg hshort]
        have hlength := List.length_take_of_le (Nat.le_of_not_lt hshort)
        refine .enough bytes _ (Nat.le_of_not_lt hshort) (congrArg Except.ok hlength) ?_
        rw [Read.buffer, Read.of, Bytes.overwrite, hlength]

/-! ## What is fetched -/

/-- A read that has something to read fetches it. -/
theorem exists_range? (hwant : 0 < readableLength object.length offset capacity) :
    ∃ last, object.range? offset capacity = some (offset, last) := by
  unfold range?
  rw [if_neg (Nat.ne_of_gt hwant)]
  exact ⟨_, rfl⟩

/-- A read over a store that may answer anything either has nothing to read, and then it fetches
nothing and leaves the buffer as it is; or it makes one fetch, of the bytes from its offset on and
as many as it wants. These end before the end of the object, so that no sum of positions and no
difference wraps around. What it wants fits into the buffer, and it takes the answer as it should.
-/
theorem reads_by_one_fetch (object : RemoteObject) (store : ObjectStore) (offset : UInt64)
    (before : Bytes) :
    let want := readableLength object.length offset before.length
    ∃ read fetches,
      (object.readIn (recorded store) offset before.length).run [] = (read, fetches) ∧
      read = object.read store offset before.length ∧
      want = min (object.length.toNat - offset.toNat) before.length ∧
      (want = 0 ∧ fetches = [] ∧ read.outcome = .ok 0 ∧ read.buffer before = before ∨
        0 < want ∧ ∃ last, fetches = [(offset, last)] ∧
          last.toNat + 1 = offset.toNat + want ∧ last < object.length ∧
          (offset + UInt64.ofNat want).toNat = offset.toNat + want ∧
          Takes want before (store.fetch offset last) read) := by
  intro want
  have hmin : want = min (object.length.toNat - offset.toNat) before.length :=
    readableLength_eq object.length offset before.length
  refine ⟨_, _, readIn_recorded object store offset before.length [], rfl, hmin, ?_⟩
  rcases Nat.eq_zero_or_pos want with hnothing | hsome
  · have hrange : object.range? offset before.length = none := if_pos hnothing
    left
    rw [read, hrange]
    exact ⟨hnothing, rfl, rfl, Bytes.overwrite_nil before⟩
  · obtain ⟨last, hrange⟩ := exists_range? hsome
    obtain ⟨-, hlast⟩ := range?_eq_some hrange
    have hwithin : last < object.length := UInt64.lt_iff_toNat_lt.2 (by omega)
    right
    refine ⟨hsome, last, by rw [hrange]; rfl, hlast, hwithin,
      toNat_add_readableLength object.length offset before.length, ?_⟩
    rw [read, hrange]
    exact takes_accept object offset before _

/-- The end of the largest object: three bytes are fetched for a buffer of five, and of an answer
that is too long the rest is dropped. -/
theorem reads_by_one_fetch_at_end :
    let object : RemoteObject := ⟨"object", 18446744073709551615, Digests.none⟩
    let store : ObjectStore := ⟨.error .cancelled, fun _ _ => .ok [1, 2, 3, 4]⟩
    ∃ read, (object.readIn (recorded store) 18446744073709551612 5).run [] =
        (read, [(18446744073709551612, 18446744073709551614)]) ∧
      read.outcome = .ok 3 ∧ read.buffer [0, 0, 0, 0, 0] = [1, 2, 3, 0, 0] := by
  intro object store
  obtain ⟨read, fetches, hrun, -, -, hnothing | ⟨-, last, rfl, hlast, -, -, htakes⟩⟩ :=
    reads_by_one_fetch object store 18446744073709551612 [0, 0, 0, 0, 0]
  · exact absurd hnothing.1 (by decide)
  · have hwant : readableLength object.length 18446744073709551612
        ([0, 0, 0, 0, 0] : Bytes).length = 3 := by
      decide
    rw [hwant] at hlast htakes
    obtain rfl : last = 18446744073709551614 := UInt64.toNat_inj.1 (Nat.succ.inj hlast)
    refine ⟨read, hrun, ?_⟩
    cases htakes with
    | enough _ _ _ hok hbuffer => exact ⟨hok, hbuffer⟩
    | short _ _ _ hshort => exact absurd hshort (by decide)

end MalwareScan.RemoteObject
