import MalwareScan.Proofs.Content.Changes
import MalwareScan.Proofs.Remote.Fetches

/-!
# Whole bodies for ranges

A server may answer a request for a range with the range or with the whole body, and either may be
shorter than the object was said to be. `HttpObject.reads_whole_body_as_part` says that a read
makes the same of both, what that is, and that cutting the range out of a whole body keeps within
its bounds: `HttpObject.indexedCut?` has no result if it asks for a position that does not exist,
and otherwise gives what `HttpObject.cutRange` gives (`HttpObject.indexedCut?_eq`).
-/

namespace MalwareScan

variable {offset first last : UInt64} {capacity : Nat} {body : Bytes}

/-- The bytes from a first to a last position, both included. There is no result if the positions
are not in order or not all within the bytes. -/
def Bytes.between? (bytes : Bytes) (first last : UInt64) : Option Bytes :=
  if first.toNat ≤ last.toNat + 1 ∧ last.toNat < bytes.length then
    some (bytes.slice first.toNat (last.toNat + 1 - first.toNat))
  else none

/-- The bytes from `first` to `last` of a whole object by their positions, of which the last one is
moved to the end of the object. -/
def HttpObject.indexedCut? (body : Bytes) (first last : UInt64) : Option Bytes :=
  let length := UInt64.ofNat body.length
  if length ≤ first then some [] else body.between? first (min last (length - 1))

/-- The lesser of two words is the lesser number. -/
theorem toNat_min (a b : UInt64) : (min a b).toNat = min a.toNat b.toNat := by
  show (if a ≤ b then a else b).toNat = _
  simp only [apply_ite UInt64.toNat, UInt64.le_iff_toNat_le, Nat.min_def]

/-- All positions exist, and the bytes there are the range as far as the object reaches. -/
theorem HttpObject.indexedCut?_eq (hle : first ≤ last) (hfits : body.length < UInt64.size) :
    indexedCut? body first last = some (cutRange body first last) := by
  have hlength : (UInt64.ofNat body.length).toNat = body.length := UInt64.toNat_ofNat_of_lt' hfits
  have hfirst := UInt64.le_iff_toNat_le.1 hle
  unfold indexedCut? cutRange
  dsimp only
  by_cases hbeyond : UInt64.ofNat body.length ≤ first
  · rw [if_pos hbeyond]
    rw [UInt64.le_iff_toNat_le, hlength] at hbeyond
    rw [Nat.sub_eq_zero_of_le (by omega), Bytes.slice, List.take_zero]
  · rw [if_neg hbeyond]
    rw [UInt64.le_iff_toNat_le, hlength] at hbeyond
    -- The object is not empty here, so that its last position is there.
    have hone : (1 : UInt64).toNat = 1 := rfl
    have hend : (UInt64.ofNat body.length - 1).toNat = body.length - 1 := by
      rw [UInt64.toNat_sub_of_le _ _ (UInt64.le_iff_toNat_le.2 (by omega)), hlength, hone]
    rw [Bytes.between?, toNat_min, hend, if_pos (by omega)]
    congr 2
    omega

namespace RemoteObject

variable {object : RemoteObject} {store : ObjectStore}

/-- What is fetched is wanted. -/
theorem pos_of_range?_eq_some (h : object.range? offset capacity = some (first, last)) :
    0 < readableLength object.length offset capacity := by
  rw [Nat.pos_iff_ne_zero]
  intro hnothing
  rw [range?, if_pos hnothing] at h
  cases h

/-- What a read should make of a body: all that is wanted, if the body reaches so far, and
otherwise an unexpected end. -/
def readCut (object : RemoteObject) (body : Bytes) (offset : UInt64) (capacity : Nat) : Read :=
  let want := readableLength object.length offset capacity
  if offset.toNat + want ≤ body.length then ⟨body.slice offset.toNat want, .ok want⟩
  else .failed (object.shortError (body.length - offset.toNat) want offset)

/-- It is whole or ends with the body. -/
theorem isWholeOrEnded_readCut (object : RemoteObject) (body : Bytes) (offset : UInt64)
    (before : Bytes) (hwant : 0 < readableLength object.length offset before.length) :
    (object.readCut body offset before.length).IsWholeOrEnded
      (readableLength object.length offset before.length) body offset.toNat before := by
  have hlength :=
    body.length_slice offset.toNat (readableLength object.length offset before.length)
  unfold readCut
  dsimp only
  generalize readableLength object.length offset before.length = want at hwant hlength ⊢
  by_cases hreaches : offset.toNat + want ≤ body.length
  · have hwhole : (body.slice offset.toNat want).length = want := by omega
    rw [if_pos hreaches]
    refine .whole (.inr hreaches) rfl hwhole ?_
    rw [Read.buffer, Bytes.overwrite, hwhole]
  · rw [if_neg hreaches]
    exact .ended _ (by omega) (by omega) rfl rfl

/-- A read whose fetch gives the range, as far as the body reaches, makes this of it. -/
theorem read_of_cut (hrange : object.range? offset capacity = some (first, last))
    (hfetch : store.fetch first last =
      .ok (body.slice first.toNat (last.toNat + 1 - first.toNat))) :
    object.read store offset capacity = object.readCut body offset capacity := by
  have hwant := length_range?_eq_some hrange
  have hpos := pos_of_range?_eq_some hrange
  obtain ⟨rfl, -⟩ := range?_eq_some hrange
  rw [hwant] at hfetch
  have hlength := body.length_slice first.toNat (readableLength object.length first capacity)
  unfold readCut
  dsimp only
  by_cases hreaches : first.toNat + readableLength object.length first capacity ≤ body.length
  · rw [if_pos hreaches, read_of_fetch hrange hfetch (by omega), List.take_of_length_le (by omega)]
  · rw [if_neg hreaches, read, hrange]
    simp only [hfetch, accept]
    rw [if_pos (by omega), hlength, Nat.min_eq_right (by omega)]

/-- A read whose fetch fails, fails so. -/
theorem read_of_fetch_eq_error {e : Error}
    (hrange : object.range? offset capacity = some (first, last))
    (hfetch : store.fetch first last = .error e) :
    object.read store offset capacity = .failed e := by
  rw [read, hrange]
  simp only [hfetch, accept]

end RemoteObject

/-- A read that has something to read makes the same of the range and of the whole body, however
long the body is: it is whole, or it ends with the body. It fails if the status is any other.
Cutting the range out of the whole body keeps within its bounds. -/
theorem HttpObject.reads_whole_body_as_part (http : HttpObject) (head : Exchange)
    (object : RemoteObject) (offset : UInt64) (before body : Bytes)
    (hwant : 0 < readableLength object.length offset before.length) :
    let want := readableLength object.length offset before.length
    ∃ last, object.range? offset before.length = some (offset, last) ∧
      (object.readCut body offset before.length).IsWholeOrEnded want body offset.toNat before ∧
      (∀ get answer, get offset last = .ok answer → RangeAnswer body offset last answer →
        object.read (http.store head get) offset before.length =
          object.readCut body offset before.length) ∧
      (∀ get answer, get offset last = .ok answer → answer.status ≠ 206 → answer.status ≠ 200 →
        ∃ fault, object.read (http.store head get) offset before.length = .failed (.io fault)) ∧
      (body.length < UInt64.size →
        indexedCut? body offset last = some (body.slice offset.toNat want)) := by
  intro want
  obtain ⟨last, hrange⟩ := RemoteObject.exists_range? hwant
  obtain ⟨-, hlast⟩ := RemoteObject.range?_eq_some hrange
  refine ⟨last, hrange, object.isWholeOrEnded_readCut body offset before hwant, ?_, ?_, ?_⟩
  · intro get answer hget hanswer
    have hfetch : (http.store head get).fetch offset last = _ :=
      (congrArg (http.range offset last) hget).trans (http.range_of_rangeAnswer hanswer)
    exact RemoteObject.read_of_cut hrange hfetch
  · intro get answer hget hpart hwhole
    have hfetch : (http.store head get).fetch offset last = _ :=
      (congrArg (http.range offset last) hget).trans (if_pos ⟨hpart, hwhole⟩)
    exact ⟨_, RemoteObject.read_of_fetch_eq_error hrange hfetch⟩
  · intro hfits
    have hle : offset ≤ last := UInt64.le_iff_toNat_le.2 (by omega)
    rw [indexedCut?_eq hle hfits, cutRange_eq, RemoteObject.length_range?_eq_some hrange]

/-- Three bytes where four were promised: two of them are read from the range as from the whole
body, and three are too many. -/
theorem HttpObject.reads_whole_body_as_part_short :
    let object : RemoteObject := ⟨"object", 4, Digests.none⟩
    let http : HttpObject := ⟨{ scheme := "https", path := .plain "" }⟩
    let whole := http.store (.error "") fun _ _ => .ok ⟨200, [], .ok [1, 2, 3]⟩
    let part := http.store (.error "") fun _ _ => .ok ⟨206, [], .ok [2, 3]⟩
    (∀ capacity ∈ [2, 3], object.read whole 1 capacity = object.read part 1 capacity) ∧
      (object.read whole 1 2).outcome = .ok 2 ∧ (object.read whole 1 2).buffer [0, 0] = [2, 3] ∧
      ∃ fault, (object.read whole 1 3).outcome = .error (.io fault) ∧
        fault.kind = .unexpectedEof := by
  intro object http whole part
  obtain ⟨_, hfits, hall, hreads, -⟩ := http.reads_whole_body_as_part (.error "") object 1 [0, 0]
    [1, 2, 3] (by decide)
  obtain ⟨_, hlong, hended, hreads', -⟩ := http.reads_whole_body_as_part (.error "") object 1
    [0, 0, 0] [1, 2, 3] (by decide)
  have hrange : object.range? 1 2 = some (1, 2) := by decide +kernel
  have hrange' : object.range? 1 3 = some (1, 3) := by decide +kernel
  cases hrange.symm.trans hfits
  cases hrange'.symm.trans hlong
  have hwhole := hreads (fun _ _ => .ok ⟨200, [], .ok [1, 2, 3]⟩) _ rfl (.whole [])
  have hpart := hreads (fun _ _ => .ok ⟨206, [], .ok [2, 3]⟩) _ rfl (.part [])
  have hwhole' := hreads' (fun _ _ => .ok ⟨200, [], .ok [1, 2, 3]⟩) _ rfl (.whole [])
  have hpart' := hreads' (fun _ _ => .ok ⟨206, [], .ok [2, 3]⟩) _ rfl (.part [])
  have hwant : readableLength object.length 1 ([0, 0] : Bytes).length = 2 := by decide
  rw [← hwhole, hwant] at hall
  rw [← hwhole'] at hended
  refine ⟨?_, ?_⟩
  · simp only [List.forall_mem_cons]
    exact ⟨hwhole.trans hpart.symm, hwhole'.trans hpart'.symm, nofun⟩
  · cases hall with
    | ended _ _ hends => exact absurd hends (by decide)
    | whole _ hok _ hbuffer =>
        cases hended with
        | whole hreaches => exact absurd hreaches (by decide)
        | ended fault _ _ herror hkind => exact ⟨hok, hbuffer, fault, herror, hkind⟩

end MalwareScan
