import MalwareScan.Proofs.Remote.Failures
import MalwareScan.Proofs.Text.Numerals

/-!
# Sizes of remote objects

The size of an object is what the answer to the request for its headers states
(`Response.States`). Objects behind URLs are not opened without it. For objects in buckets a
success that states no size, or a negative one, is taken for the size 0 (`Response.LacksSize`). A
size that is stated is the object's, unless the client of its store does not hear it
(`ObjectLocator.Ignores`). The main theorem is `opens_with_stated_size_iff`.
-/

namespace MalwareScan

variable {answer : Response} {n m : Int}

namespace Response

/-- The number that an answer states as its length: the first header for it denotes the number. -/
def States (answer : Response) (n : Int) : Prop :=
  ∃ value, answer.header? "content-length" = some value ∧
    Text.Denotes (Text.trim value).toList n

/-- A success that states no length, or a negative one, and is not refused for its headers. -/
def LacksSize (answer : Response) : Prop :=
  BucketObject.isSuccess answer.status = true ∧ BucketObject.isRefused answer = false ∧
    (answer.header? "content-length" = none ∨ ∃ n, answer.States n ∧ -2 ^ 63 ≤ n ∧ n < 0)

/-- An answer states one length at most. -/
theorem States.unique (h : answer.States n) (h' : answer.States m) : n = m := by
  obtain ⟨value, hvalue, hn⟩ := h
  obtain ⟨value', hvalue', hm⟩ := h'
  rw [hvalue] at hvalue'
  cases hvalue'
  exact hn.unique hm

/-- An answer that lacks a size states no length that is one. -/
theorem LacksSize.not_states (h : answer.LacksSize) (size : Nat) : ¬ answer.States size := by
  intro hsize
  obtain ⟨-, -, hnone | ⟨n, hstates, -, hneg⟩⟩ := h
  · obtain ⟨value, hvalue, -⟩ := hsize
    rw [hnone] at hvalue
    cases hvalue
  · have heq := hsize.unique hstates
    omega

/-- A length that is read is stated. -/
theorem states_of_contentLength? {size : UInt64} (h : answer.contentLength? = some size) :
    answer.States size.toNat := by
  obtain ⟨value, hvalue, hread⟩ := Option.bind_eq_some_iff.1 h
  obtain ⟨-, hread⟩ := Option.ite_none_right_eq_some.1 hread
  exact ⟨value, hvalue, (Text.uint64?_eq_some_iff.1 hread).2⟩

/-- A positive length that is stated is read if its header is a text and a word can hold it. -/
theorem contentLength?_of_states {size : UInt64} (hpos : 0 < size)
    (htext : ∀ value, answer.header? "content-length" = some value → isText value = true)
    (h : answer.States size.toNat) : answer.contentLength? = some size := by
  obtain ⟨value, hvalue, hdenotes⟩ := h
  rw [contentLength?, hvalue, Option.bind_some, if_pos (htext value hvalue)]
  refine Text.uint64?_eq_some_iff.2 ⟨?_, hdenotes⟩
  intro digits hminus
  rw [hminus, Text.denotes_minus_iff] at hdenotes
  have hnat : 0 < size.toNat := UInt64.lt_iff_toNat_lt.1 hpos
  omega

end Response

namespace BucketObject

/-- A size that is read is stated, or it is 0 because the answer lacks it. -/
theorem states_or_lacksSize_of_sizeOf? {size : UInt64} (hsuccess : isSuccess answer.status = true)
    (h : sizeOf? answer = some size) : answer.States size.toNat ∨ answer.LacksSize ∧ size = 0 := by
  obtain ⟨hrefused, h⟩ := Option.ite_none_left_eq_some.1 h
  have haccepted : isRefused answer = false := eq_false_of_ne_true hrefused
  cases hvalue : answer.header? "content-length" with
  | none =>
      rw [hvalue] at h
      exact .inr ⟨⟨hsuccess, haccepted, .inl hvalue⟩, (Option.some.inj h).symm⟩
  | some value =>
      rw [hvalue] at h
      obtain ⟨n, hread, rfl⟩ := Option.map_eq_some_iff.1 h
      obtain ⟨hmin, hmax, hdenotes⟩ := Text.int64?_eq_some_iff.1 hread
      by_cases hneg : n < 0
      · have hzero : n.toNat = 0 := Int.toNat_of_nonpos (Int.le_of_lt hneg)
        rw [hzero]
        exact .inr
          ⟨⟨hsuccess, haccepted, .inr ⟨n, ⟨value, hvalue, hdenotes⟩, hmin, hneg⟩⟩, rfl⟩
      · have hnat : n.toNat < 2 ^ 64 := by omega
        refine .inl ⟨value, hvalue, ?_⟩
        rwa [UInt64.toNat_ofNat_of_lt' hnat, Int.toNat_of_nonneg (Int.not_lt.1 hneg)]

/-- A size that is stated is read if the answer is not refused and a signed word can hold it. -/
theorem sizeOf?_of_states {size : UInt64} (hlt : size.toNat < 2 ^ 63)
    (haccepted : isRefused answer = false) (h : answer.States size.toNat) :
    sizeOf? answer = some size := by
  obtain ⟨value, hvalue, hdenotes⟩ := h
  have hread : Text.int64? (Text.trim value) = some (size.toNat : Int) :=
    Text.int64?_eq_some_iff.2 ⟨by omega, by omega, hdenotes⟩
  rw [sizeOf?, haccepted, if_neg Bool.false_ne_true, hvalue]
  dsimp only
  rw [hread, Option.map_some, Int.toNat_natCast, UInt64.ofNat_toNat]

/-- An answer that lacks a size is taken to state 0. -/
theorem sizeOf?_of_lacksSize (h : answer.LacksSize) : sizeOf? answer = some 0 := by
  obtain ⟨-, haccepted, hnone | ⟨n, ⟨value, hvalue, hdenotes⟩, hmin, hneg⟩⟩ := h
  all_goals rw [sizeOf?, haccepted, if_neg Bool.false_ne_true]
  · rw [hnone]
  · have hread : Text.int64? (Text.trim value) = some n :=
      Text.int64?_eq_some_iff.2 ⟨hmin, by omega, hdenotes⟩
    have hzero : n.toNat = 0 := Int.toNat_of_nonpos (Int.le_of_lt hneg)
    rw [hvalue]
    dsimp only
    rw [hread, Option.map_some, hzero]
    rfl

end BucketObject

namespace ObjectLocator

/-- The size of an object that an answer gives. -/
def sizeIn? : ObjectLocator → Response → Option UInt64
  | s3 _ _, answer =>
    if BucketObject.isSuccess answer.status then BucketObject.sizeOf? answer else none
  | url _, answer => if answer.status = 200 then answer.contentLength? else none

/-- The client of the store does not hear the size that an answer states: that of a bucket because
it refuses the answer for its headers, and that of a URL because the header is no text. -/
def Ignores : ObjectLocator → Response → Prop
  | s3 _ _, answer => BucketObject.isRefused answer = true
  | url _, answer =>
    ∃ value, answer.header? "content-length" = some value ∧ Response.isText value = false

/-- A positive size that is stated is given, for every object, if it is heard. -/
theorem sizeIn?_of_states {size : UInt64} {locator : ObjectLocator} (hpos : 0 < size)
    (hlt : size.toNat < 2 ^ 63) (hok : answer.status = 200) (h : answer.States size.toNat)
    (hheard : ¬ locator.Ignores answer) : locator.sizeIn? answer = some size := by
  cases locator with
  | s3 bucket key =>
      have hsuccess : BucketObject.isSuccess answer.status = true := by
        rw [hok]
        rfl
      have haccepted : BucketObject.isRefused answer = false := eq_false_of_ne_true hheard
      exact (if_pos hsuccess).trans (BucketObject.sizeOf?_of_states hlt haccepted h)
  | url u =>
      refine (if_pos hok).trans (Response.contentLength?_of_states hpos (fun value hvalue => ?_) h)
      exact eq_true_of_ne_false fun htext => hheard ⟨value, hvalue, htext⟩

/-- No size is given if none is heard. -/
theorem sizeIn?_of_ignores {locator : ObjectLocator} (h : locator.Ignores answer) :
    locator.sizeIn? answer = none := by
  cases locator with
  | s3 bucket key =>
      have hrefused : BucketObject.isRefused answer = true := h
      rw [sizeIn?, BucketObject.sizeOf?, if_pos hrefused, ite_self]
  | url u =>
      obtain ⟨value, hvalue, htext⟩ := h
      rw [sizeIn?, Response.contentLength?, hvalue, Option.bind_some, htext,
        if_neg Bool.false_ne_true, ite_self]

/-- A size that is given is stated, unless it is that of an object in a bucket whose answer lacks
it. -/
theorem states_of_sizeIn? {size : UInt64} {locator : ObjectLocator}
    (h : locator.sizeIn? answer = some size)
    (hnot : ¬ ((∃ bucket key, locator = .s3 bucket key) ∧ answer.LacksSize)) :
    answer.States size.toNat := by
  cases locator with
  | s3 bucket key =>
      simp only [sizeIn?, Option.ite_none_right_eq_some] at h
      rcases BucketObject.states_or_lacksSize_of_sizeOf? h.1 h.2 with hstates | ⟨hlacks, -⟩
      · exact hstates
      · exact absurd ⟨⟨bucket, key, rfl⟩, hlacks⟩ hnot
  | url u =>
      simp only [sizeIn?, Option.ite_none_right_eq_some] at h
      exact Response.states_of_contentLength? h.2

/-- An answer describes an object if it gives its size. -/
theorem size_infoOf (locator : ObjectLocator) (answer : Response) :
    (locator.infoOf (.ok answer)).toOption.map ObjectInfo.size = locator.sizeIn? answer := by
  cases locator with
  | s3 bucket key =>
      simp only [infoOf, BucketObject.info, sizeIn?]
      by_cases hsuccess : BucketObject.isSuccess answer.status = true
      · have hrange : 200 ≤ answer.status ∧ answer.status ≤ 299 := by
          simpa [BucketObject.isSuccess] using hsuccess
        rw [if_neg (by omega), if_neg (by omega), if_neg (by simp [hsuccess]), if_pos hsuccess]
        cases BucketObject.sizeOf? answer <;> rfl
      · rw [if_pos (by simpa using hsuccess : (!BucketObject.isSuccess answer.status) = true),
          if_neg hsuccess]
        split
        · rfl
        · split
          · rfl
          · rfl
  | url u =>
      simp only [infoOf, HttpObject.info, sizeIn?]
      by_cases hok : answer.status = 200
      · rw [if_neg (by omega), if_neg (by omega), if_neg (by omega), if_pos hok]
        cases answer.contentLength? <;> rfl
      · rw [if_pos hok, if_neg hok]
        split
        · rfl
        · split
          · rfl
          · rfl

/-- An object that may not be read is refused as it is shown. -/
theorem infoOf_of_refused (locator : ObjectLocator)
    (h : answer.status = 401 ∨ answer.status = 403) :
    locator.infoOf (.ok answer) = .error (.noPermission locator.displayName) := by
  cases locator with
  | s3 bucket key => exact if_pos h
  | url u => exact if_pos h

/-- So is one that is not there. -/
theorem infoOf_of_missing (locator : ObjectLocator) (h : answer.status = 404) :
    locator.infoOf (.ok answer) = .error (.fileNotFound locator.displayName) := by
  have hrefused : ¬ (answer.status = 401 ∨ answer.status = 403) := by omega
  cases locator with
  | s3 bucket key => exact (if_neg hrefused).trans (if_pos h)
  | url u => exact (if_neg hrefused).trans (if_pos h)

end ObjectLocator

namespace RemoteObject

open ObjectLocator

variable {network : Network} {locator : ObjectLocator} {location : String} {size : UInt64}

/-- An object is opened as it is described. -/
theorem open_eq (hanswer : network.head locator = .ok answer) (digest : Bool) :
    RemoteObject.open locator.displayName (locator.store network) digest =
      (locator.infoOf (.ok answer)).map (ofInfo locator.displayName digest) := by
  rw [← hanswer, ← store_info]
  unfold RemoteObject.open
  cases (locator.store network).info <;> rfl

/-- The size of an open object is the one that the answer gives. -/
theorem exists_open_iff (hanswer : network.head locator = .ok answer) (digest : Bool) :
    (∃ object, RemoteObject.open locator.displayName (locator.store network) digest = .ok object ∧
      object.length = size) ↔ locator.sizeIn? answer = some size := by
  rw [open_eq hanswer, ← size_infoOf]
  cases locator.infoOf (.ok answer) with
  | error e => exact ⟨nofun, nofun⟩
  | ok info =>
      constructor
      · rintro ⟨object, hobject, rfl⟩
        cases hobject
        rfl
      · intro h
        exact ⟨_, rfl, Option.some.inj h⟩

/-- A location is opened as the object that it names. -/
theorem openLocation_eq_map (network : Network) (digest : Bool)
    (h : parse location = .ok locator) :
    openLocation network location digest =
      (RemoteObject.open locator.displayName (locator.store network) digest).map fun object =>
        (object, locator.store network) := by
  rw [openLocation, h]
  show (RemoteObject.open _ _ digest).bind _ = _
  cases RemoteObject.open locator.displayName (locator.store network) digest <;> rfl

/-- An object is opened with the size that the answer states, except for an object in a bucket
whose answer is a success that lacks a size: it is opened as an object of length 0. A positive
size that is stated with the status 200 is the object's if the client of its store hears it, and
otherwise the object is not opened. The statuses 401, 403 and 404 are reported with what may be
shown of the location. -/
theorem opens_with_stated_size_iff (network : Network) (locator : ObjectLocator) (answer : Response)
    (digest : Bool) (hanswer : network.head locator = .ok answer) :
    let opened := RemoteObject.open locator.displayName (locator.store network) digest
    ((∀ object, opened = .ok object → answer.States object.length.toNat) ↔
      ¬ ((∃ bucket key, locator = .s3 bucket key) ∧ answer.LacksSize)) ∧
    ((∃ bucket key, locator = .s3 bucket key) → answer.LacksSize →
      ∃ object, opened = .ok object ∧ object.length = 0) ∧
    (∀ size : UInt64, 0 < size → size.toNat < 2 ^ 63 → answer.status = 200 →
      answer.States size.toNat → ¬ locator.Ignores answer →
        ∃ object, opened = .ok object ∧ object.length = size) ∧
    (locator.Ignores answer → ∀ object, opened ≠ .ok object) ∧
    (answer.status = 401 ∨ answer.status = 403 →
      opened = .error (.noPermission locator.displayName)) ∧
    (answer.status = 404 → opened = .error (.fileNotFound locator.displayName)) ∧
    ∀ location, parse location = .ok locator →
      redact location = locator.displayName ∧
        openLocation network location digest =
          opened.map fun object => (object, locator.store network) := by
  intro opened
  have hlacks : (∃ bucket key, locator = .s3 bucket key) → answer.LacksSize →
      ∃ object, opened = .ok object ∧ object.length = 0 := by
    rintro ⟨bucket, key, rfl⟩ hlacks
    exact (exists_open_iff hanswer digest).2
      ((if_pos hlacks.1).trans (BucketObject.sizeOf?_of_lacksSize hlacks))
  refine ⟨⟨?_, ?_⟩, hlacks, ?_, ?_, ?_, ?_, ?_⟩
  · rintro hstated ⟨hbucket, hlack⟩
    obtain ⟨object, hobject, -⟩ := hlacks hbucket hlack
    exact hlack.not_states _ (hstated object hobject)
  · intro hnot object hobject
    exact states_of_sizeIn? ((exists_open_iff hanswer digest).1 ⟨object, hobject, rfl⟩) hnot
  · intro size hpos hlt hok hstates hheard
    exact (exists_open_iff hanswer digest).2 (sizeIn?_of_states hpos hlt hok hstates hheard)
  · intro hignores object hobject
    have hsize := (exists_open_iff hanswer digest).1 ⟨object, hobject, rfl⟩
    rw [sizeIn?_of_ignores hignores] at hsize
    cases hsize
  · intro hrefused
    show RemoteObject.open _ _ _ = _
    rw [open_eq hanswer, infoOf_of_refused locator hrefused]
    rfl
  · intro hmissing
    show RemoteObject.open _ _ _ = _
    rw [open_eq hanswer, infoOf_of_missing locator hmissing]
    rfl
  · intro location hparse
    refine ⟨?_, openLocation_eq_map network digest hparse⟩
    rw [redact, hparse]

/-- An object of 1234 bytes behind a URL. -/
theorem opens_with_stated_size_1234 :
    let answer : Response := { status := 200, headers := [("Content-Length", " 1234")] }
    let network : Network := ⟨fun _ => .ok answer, fun _ _ _ => .error ""⟩
    ∃ object store, openLocation network "https://h.example/k?X-Amz-Signature=5f" false =
        .ok (object, store) ∧ object.length = 1234 := by
  intro answer network
  have hstates : answer.States (1234 : UInt64).toNat := by
    refine ⟨" 1234", by decide, ?_⟩
    exact (Text.int64?_eq_some_iff.1 (by decide : Text.int64? (Text.trim " 1234") = some 1234)).2.2
  obtain ⟨locator, hparse⟩ :
      ∃ locator, parse "https://h.example/k?X-Amz-Signature=5f" = .ok locator :=
    ⟨_, rfl⟩
  obtain ⟨-, -, hopens, -, -, -, hlocation⟩ :=
    opens_with_stated_size_iff network locator answer false rfl
  have hheard : ¬ locator.Ignores answer := by
    cases hparse
    rintro ⟨value, hvalue, htext⟩
    cases hvalue
    exact Bool.noConfusion htext
  obtain ⟨object, hopened, hlength⟩ := hopens 1234 (by decide) (by decide) rfl hstates hheard
  refine ⟨object, locator.store network, ?_, hlength⟩
  rw [(hlocation _ hparse).2, hopened]
  rfl

/-- A success without a size, and one with a negative size, are taken for an object of length 0 in a
bucket. -/
theorem opens_without_stated_size :
    let unsized : Response := { status := 200 }
    let negative : Response := { status := 200, headers := [("content-length", "-1")] }
    ∀ answer ∈ [unsized, negative], (∀ size : Nat, ¬ answer.States size) ∧
      ∃ object store,
        openLocation ⟨fun _ => .ok answer, fun _ _ _ => .error ""⟩ "s3://bkt/dir/key.bin" false =
          .ok (object, store) ∧ object.length = 0 := by
  intro unsized negative
  have hunsized : unsized.LacksSize := ⟨rfl, rfl, .inl rfl⟩
  have hminus := Text.int64?_eq_some_iff.1 (by decide : Text.int64? (Text.trim "-1") = some (-1))
  have hnegative : negative.LacksSize :=
    ⟨rfl, rfl, .inr ⟨-1, ⟨"-1", by decide, hminus.2.2⟩, hminus.1, by decide⟩⟩
  refine List.forall_mem_cons.2 ⟨?_, List.forall_mem_singleton.2 ?_⟩
  · exact ⟨hunsized.not_states, _, _, rfl, rfl⟩
  · exact ⟨hnegative.not_states, _, _, rfl, rfl⟩

end RemoteObject

end MalwareScan
