import MalwareScan.Proofs.Content.Reading
import MalwareScan.Remote.BucketObject

/-!
# Ranged reads of remote objects

A service may answer a request for a range with the range alone, or ignore it and send the whole
object. A read over a URL is right in both cases, because `HttpObject.range` looks at the status
and cuts the range out of a whole object. `BucketObject.range` does not: it passes on the whole
object, of which the reader takes the beginning. The main theorem is `bucketObject_read_eq_iff`,
which says when that is what should have been read.
-/

namespace MalwareScan

/-- What a read of the content `data` should do. -/
def Read.exact (data : Bytes) (length offset : UInt64) (capacity : Nat) : Read where
  front := data.slice offset.toNat (readableLength length offset capacity)
  outcome := .ok (readableLength length offset capacity)

/-- The answer to a request for the bytes of `data` from `first` to `last`: the range, or all of
`data`. -/
inductive RangeAnswer (data : Bytes) (first last : UInt64) : Response → Prop where
  | part (headers) : RangeAnswer data first last
      ⟨206, headers, .ok (data.slice first.toNat (last.toNat + 1 - first.toNat))⟩
  | whole (headers) : RangeAnswer data first last ⟨200, headers, .ok data⟩

variable {data bytes : Bytes} {first last offset : UInt64} {capacity : Nat} {answer : Response}

/-! ## Reading what was fetched -/

namespace RemoteObject

variable {object : RemoteObject} {store : ObjectStore}

/-- A read that fetches nothing has nothing to read. -/
theorem readableLength_of_range?_eq_none (h : object.range? offset capacity = none) :
    readableLength object.length offset capacity = 0 := by
  simpa [range?] using h

/-- A read that fetches nothing gives nothing, which is right. -/
theorem read_of_range?_eq_none (data : Bytes) (h : object.range? offset capacity = none) :
    object.read store offset capacity = .exact data object.length offset capacity := by
  simp [read, h, Read.exact, Read.of, readableLength_of_range?_eq_none h, Bytes.slice]

/-- A read fetches the bytes from its offset on, as many as it can use. -/
theorem range?_eq_some (h : object.range? offset capacity = some (first, last)) :
    first = offset ∧
      last.toNat + 1 = offset.toNat + readableLength object.length offset capacity := by
  have hlength := readableLength_eq object.length offset capacity
  simp only [range?] at h
  split at h
  · cases h
  · rename_i hwant
    simp only [Option.some.injEq, Prod.mk.injEq] at h
    obtain ⟨rfl, rfl⟩ := h
    refine ⟨rfl, ?_⟩
    -- Neither the sum nor the difference wraps around: what is wanted ends within the length.
    have hsum := toNat_add_readableLength object.length offset capacity
    have hone : (1 : UInt64).toNat = 1 := rfl
    rw [UInt64.toNat_sub_of_le _ _ (UInt64.le_iff_toNat_le.2 (by omega)), hsum]
    omega

/-- The bytes that a read fetches are those that it should read. -/
theorem length_range?_eq_some (h : object.range? offset capacity = some (first, last)) :
    last.toNat + 1 - first.toNat = readableLength object.length offset capacity := by
  obtain ⟨rfl, hlast⟩ := range?_eq_some h
  omega

/-- A read takes the beginning of what was fetched. -/
theorem read_of_fetch (hrange : object.range? offset capacity = some (first, last))
    (hfetch : store.fetch first last = .ok bytes)
    (henough : readableLength object.length offset capacity ≤ bytes.length) :
    object.read store offset capacity =
      ⟨bytes.take (readableLength object.length offset capacity),
        .ok (readableLength object.length offset capacity)⟩ := by
  simp [read, hrange, hfetch, accept, Nat.not_lt.2 henough, Read.of, List.length_take,
    Nat.min_eq_left henough]

end RemoteObject

/-! ## The two kinds of objects -/

/-- The range is cut out of a whole object as far as that reaches. -/
theorem HttpObject.cutRange_eq (body : Bytes) (first last : UInt64) :
    cutRange body first last = body.slice first.toNat (last.toNat + 1 - first.toNat) := by
  rw [cutRange, Bytes.slice, Bytes.slice, List.take_eq_take_iff, List.length_drop]
  omega

/-- Over a URL the range is fetched in both cases. -/
theorem HttpObject.range_of_rangeAnswer (object : HttpObject)
    (h : RangeAnswer data first last answer) :
    object.range first last (.ok answer) =
      .ok (data.slice first.toNat (last.toNat + 1 - first.toNat)) := by
  cases h with
  | part headers => simp [range]
  | whole headers => simp [range, cutRange_eq]

/-- From a bucket all that was sent is fetched. -/
theorem BucketObject.range_of_rangeAnswer (object : BucketObject)
    (h : RangeAnswer data first last answer) :
    object.range first last (.ok answer) =
      .ok (if answer.status = 200 then data
        else data.slice first.toNat (last.toNat + 1 - first.toNat)) := by
  cases h <;> simp [range, isSuccess]

/-! ## Reads over the two kinds of objects -/

section

variable {object : RemoteObject} {head : Exchange} {get : UInt64 → UInt64 → Response}

/-- A read over a URL gives the content at its offset. -/
theorem HttpObject.read_eq_exact (http : HttpObject) (hsize : object.length.toNat = data.length)
    (hget : ∀ first last, RangeAnswer data first last (get first last)) :
    object.read (http.store head fun first last => .ok (get first last)) offset capacity =
      .exact data object.length offset capacity := by
  cases hrange : object.range? offset capacity with
  | none => exact RemoteObject.read_of_range?_eq_none data hrange
  | some bounds =>
      obtain ⟨first, last⟩ := bounds
      have hlength := RemoteObject.length_range?_eq_some hrange
      obtain ⟨rfl, -⟩ := RemoteObject.range?_eq_some hrange
      have hfetch := http.range_of_rangeAnswer (hget first last)
      have hslice := length_slice_readableLength hsize first capacity
      rw [hlength] at hfetch
      rw [RemoteObject.read_of_fetch hrange hfetch (Nat.le_of_eq hslice.symm), Read.exact,
        List.take_of_length_le (Nat.le_of_eq hslice)]

/-- A read from a bucket fills as much of the buffer as it should: with the content at its offset,
or with the beginning of the content if all of it was sent. -/
theorem BucketObject.read_eq (bucket : BucketObject) (hsize : object.length.toNat = data.length)
    (hget : ∀ first last, RangeAnswer data first last (get first last))
    (hrange : object.range? offset capacity = some (first, last)) :
    object.read (bucket.store head fun first last => .ok (get first last)) offset capacity =
      ⟨if (get first last).status = 200 then
          data.take (readableLength object.length offset capacity)
        else data.slice offset.toNat (readableLength object.length offset capacity),
        .ok (readableLength object.length offset capacity)⟩ := by
  have hlength := RemoteObject.length_range?_eq_some hrange
  obtain ⟨rfl, -⟩ := RemoteObject.range?_eq_some hrange
  have hfetch := bucket.range_of_rangeAnswer (hget first last)
  have hslice := length_slice_readableLength hsize first capacity
  have hwant := readableLength_eq object.length first capacity
  rw [hlength] at hfetch
  split at hfetch
  · rename_i hwhole
    rw [RemoteObject.read_of_fetch hrange hfetch (by omega), if_pos hwhole]
  · rename_i hpart
    rw [RemoteObject.read_of_fetch hrange hfetch (Nat.le_of_eq hslice.symm), if_neg hpart,
      List.take_of_length_le (Nat.le_of_eq hslice)]

/-- Whatever the form of the answers: a read over a URL gives the content at its offset. A read
from a bucket gives as many bytes, but they are the content at its offset exactly if the range
alone was sent, or the content has the same bytes there as at its beginning. -/
theorem bucketObject_read_eq_iff (http : HttpObject) (bucket : BucketObject) (head : Exchange)
    (get : UInt64 → UInt64 → Response) (object : RemoteObject) (data : Bytes)
    (hsize : object.length.toNat = data.length)
    (hget : ∀ first last, RangeAnswer data first last (get first last)) (offset : UInt64)
    (capacity : Nat) :
    object.read (http.store head fun first last => .ok (get first last)) offset capacity =
        .exact data object.length offset capacity ∧
      (object.read (bucket.store head fun first last => .ok (get first last)) offset
        capacity).outcome = .ok (readableLength object.length offset capacity) ∧
      (object.read (bucket.store head fun first last => .ok (get first last)) offset capacity =
          .exact data object.length offset capacity ↔
        ∀ first last, object.range? offset capacity = some (first, last) →
          (get first last).status = 200 →
          data.take (readableLength object.length offset capacity) =
            data.slice offset.toNat (readableLength object.length offset capacity)) := by
  refine ⟨http.read_eq_exact hsize hget, ?_⟩
  cases hrange : object.range? offset capacity with
  | none =>
      rw [RemoteObject.read_of_range?_eq_none data hrange]
      exact ⟨rfl, fun _ => nofun, fun _ => rfl⟩
  | some bounds =>
      obtain ⟨first, last⟩ := bounds
      rw [bucket.read_eq hsize hget hrange]
      refine ⟨rfl, ?_⟩
      simp only [Read.exact, Read.mk.injEq, and_true, ite_eq_right_iff, Option.some.injEq,
        Prod.mk.injEq]
      constructor
      · rintro h _ _ ⟨rfl, rfl⟩
        exact h
      · exact fun h => h first last ⟨rfl, rfl⟩

end

/-- A service that ignores the range only if the range starts at the beginning. -/
def mostlyParts (data : Bytes) (first last : UInt64) : Response :=
  if first = 0 then ⟨200, [], .ok data⟩
  else ⟨206, [], .ok (data.slice first.toNat (last.toNat + 1 - first.toNat))⟩

/-- It gives one of the two answers. -/
theorem rangeAnswer_mostlyParts : RangeAnswer data first last (mostlyParts data first last) := by
  unfold mostlyParts
  split
  · exact .whole []
  · exact .part []

/-- From such a service a read in the middle is right. -/
theorem bucketObject_read_mostlyParts :
    (⟨"object", 4, Digests.none⟩ : RemoteObject).read
        (BucketObject.store ⟨"bucket", "object"⟩ (.error "")
          fun first last => .ok (mostlyParts [1, 2, 3, 4] first last)) 1 2 =
      ⟨[2, 3], .ok 2⟩ := by
  refine (bucketObject_read_eq_iff ⟨{ scheme := "https", path := .plain "" }⟩
    ⟨"bucket", "object"⟩ (.error "") (mostlyParts [1, 2, 3, 4]) ⟨"object", 4, Digests.none⟩
    [1, 2, 3, 4] rfl (fun _ _ => rangeAnswer_mostlyParts) 1 2).2.2.2 ?_
  intro first last hrange hstatus
  cases hrange
  cases hstatus

/-- A read from a bucket can give bytes of another position. -/
theorem bucketObject_reads_elsewhere :
    ¬ ∀ (bucket : BucketObject) (head : Exchange) (get : UInt64 → UInt64 → Response)
        (object : RemoteObject) (data : Bytes) (offset : UInt64) (capacity : Nat),
        object.length.toNat = data.length →
        (∀ first last, RangeAnswer data first last (get first last)) →
        object.read (bucket.store head fun first last => .ok (get first last)) offset capacity =
          .exact data object.length offset capacity := by
  intro h
  have hread := h ⟨"bucket", "object"⟩ (.error "") (fun _ _ => ⟨200, [], .ok [1, 2, 3, 4]⟩)
    ⟨"object", 4, Digests.none⟩ [1, 2, 3, 4] 1 2 rfl fun _ _ => .whole []
  have hfront : ([1, 2] : Bytes) = [2, 3] := congrArg Read.front hread
  revert hfront
  decide

end MalwareScan
