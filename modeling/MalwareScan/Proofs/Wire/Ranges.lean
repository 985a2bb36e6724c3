import MalwareScan.Wire.ServerMessage

/-!
# The ranges of a message

The numbers of a range are signed on the wire. Ranges that a message may ask for have no negative
number, so that their positions are the numbers on the wire.

A message is read as a whole: `WellFormed` says when it asks for all the ranges that it states, and
`Spoils` for which reason it asks for none of them (`ranges_eq_ok_iff`, `ranges_eq_error_iff`).
-/

namespace MalwareScan.Wire

namespace ByteRange

variable {range : ByteRange}

/-- A number of the wire that is not negative keeps its value as a position. -/
theorem toNat_toUInt64_toInt64 {n : Int32} (h : 0 ≤ n) :
    n.toInt64.toUInt64.toNat = n.toInt.toNat := by
  have h64 : (0 : Int64) ≤ n.toInt64 := by
    rw [Int64.le_iff_toInt_le, Int32.toInt_toInt64]
    exact Int32.le_iff_toInt_le.1 h
  rw [Int64.toNat_toUInt64_of_le h64, Int64.toNatClampNeg, Int32.toInt_toInt64]

/-- Where a valid range starts. -/
theorem start_toNat (h : range.isValid = true) : range.start.toNat = range.offset.toInt.toNat := by
  simp only [isValid, Bool.and_eq_true, decide_eq_true_eq] at h
  exact toNat_toUInt64_toInt64 h.1

/-- A range is valid if none of its numbers is negative. -/
theorem isValid_iff :
    range.isValid = true ↔ 0 ≤ range.offset.toInt ∧ 0 ≤ range.length.toInt := by
  simp only [isValid, Bool.and_eq_true, decide_eq_true_eq, Int32.le_iff_toInt_le]
  rfl

/-- How many bytes a valid range has. -/
theorem size_toNat (h : range.isValid = true) : range.size.toNat = range.length.toInt.toNat := by
  simp only [isValid, Bool.and_eq_true, decide_eq_true_eq] at h
  exact toNat_toUInt64_toInt64 h.2

/-- A valid range has no more bytes than its length can say. -/
theorem size_le (h : range.isValid = true) : range.size.toNat ≤ 2147483647 := by
  have hbound := range.length.toInt_lt
  rw [size_toNat h]
  omega

end ByteRange

/-! ## All or nothing -/

/-- All ranges of two lists of the same length are valid if no number in them is negative. -/
theorem isValid_zipWith_iff {offsets lengths : List Int32}
    (hcounts : offsets.length = lengths.length) :
    (∀ range ∈ List.zipWith ByteRange.mk offsets lengths, range.isValid = true) ↔
      (∀ n ∈ offsets, 0 ≤ n.toInt) ∧ ∀ n ∈ lengths, 0 ≤ n.toInt := by
  induction offsets generalizing lengths with
  | nil =>
      obtain rfl := List.length_eq_zero_iff.1 hcounts.symm
      simp
  | cons offset offsets ih =>
      cases lengths with
      | nil => cases hcounts
      | cons length lengths =>
          rw [List.zipWith_cons_cons, List.forall_mem_cons, List.forall_mem_cons,
            List.forall_mem_cons, ih (Nat.succ.inj hcounts), ByteRange.isValid_iff]
          exact and_and_and_comm

namespace ServerMessage

/-- The ranges that a message states, whatever their numbers: those of its lists or, without lists,
the single one. A single range that is all zero is not set. -/
def stated (m : ServerMessage) : List ByteRange :=
  if m.bulkOffset = [] ∧ m.bulkLength = [] then
    if m.offset = 0 ∧ m.length = 0 then [] else [⟨m.offset, m.length⟩]
  else List.zipWith ByteRange.mk m.bulkOffset m.bulkLength

/-- A message without lists has a single range without a negative number. One with lists has equally
long ones without a negative number. -/
inductive WellFormed (m : ServerMessage) : Prop where
  | single (hoffsets : m.bulkOffset = []) (hlengths : m.bulkLength = [])
      (hoffset : 0 ≤ m.offset.toInt) (hlength : 0 ≤ m.length.toInt) : WellFormed m
  | lists (hoffsets : m.bulkOffset ≠ []) (hlengths : m.bulkLength ≠ [])
      (hcounts : m.bulkOffset.length = m.bulkLength.length)
      (hoffset : ∀ n ∈ m.bulkOffset, 0 ≤ n.toInt) (hlength : ∀ n ∈ m.bulkLength, 0 ≤ n.toInt) :
      WellFormed m

/-- Why a message asks for nothing: its lists are not equally long, or else a range has a negative
number. The first such range is the reason. -/
inductive Spoils (m : ServerMessage) : RangeFault → Prop where
  | unequalCounts (hcounts : m.bulkOffset.length ≠ m.bulkLength.length) :
      Spoils m (.unequalCounts m.bulkOffset.length m.bulkLength.length)
  | negative (before : List ByteRange) (range : ByteRange) (after : List ByteRange)
      (hcounts : m.bulkOffset.length = m.bulkLength.length)
      (hstated : m.stated = before ++ range :: after)
      (hbefore : ∀ range ∈ before, 0 ≤ range.offset.toInt ∧ 0 ≤ range.length.toInt)
      (hnegative : range.offset.toInt < 0 ∨ range.length.toInt < 0) : Spoils m (.negative range)

variable {m : ServerMessage} {ranges : List ByteRange} {fault : RangeFault}

/-- Lists that are equally long state their ranges, and so does a message without lists. -/
theorem rawRanges_of_counts (h : m.bulkOffset.length = m.bulkLength.length) :
    m.rawRanges = .ok m.stated := by
  unfold rawRanges stated
  simp only [List.isEmpty_iff, ne_eq, h, not_true_eq_false, if_false]
  split
  · split <;> rfl
  · rfl

/-- Lists that are not equally long state nothing. -/
theorem rawRanges_of_ne (h : m.bulkOffset.length ≠ m.bulkLength.length) :
    m.rawRanges = .error (.unequalCounts m.bulkOffset.length m.bulkLength.length) := by
  unfold rawRanges
  have hlists : ¬ (m.bulkOffset.isEmpty = true ∧ m.bulkLength.isEmpty = true) := by
    rintro ⟨hoffsets, hlengths⟩
    rw [List.isEmpty_iff.1 hoffsets, List.isEmpty_iff.1 hlengths] at h
    exact h rfl
  rw [if_neg hlists, if_pos h]

/-- A message is well formed if its lists are equally long and all its ranges are valid. -/
theorem wellFormed_iff :
    m.WellFormed ↔ m.bulkOffset.length = m.bulkLength.length ∧
      ∀ range ∈ m.stated, range.isValid = true := by
  constructor
  · rintro (⟨hoffsets, hlengths, hoffset, hlength⟩ | ⟨hoffsets, -, hcounts, hoffset, hlength⟩)
    · refine ⟨by rw [hoffsets, hlengths], fun range hmem => ?_⟩
      rw [stated, if_pos ⟨hoffsets, hlengths⟩] at hmem
      split at hmem
      · cases hmem
      · rw [List.mem_singleton.1 hmem]
        exact ByteRange.isValid_iff.2 ⟨hoffset, hlength⟩
    · rw [stated, if_neg fun h => hoffsets h.1]
      exact ⟨hcounts, (isValid_zipWith_iff hcounts).2 ⟨hoffset, hlength⟩⟩
  · rintro ⟨hcounts, hvalid⟩
    unfold stated at hvalid
    split at hvalid
    · rename_i hnone
      split at hvalid
      · rename_i hzero
        exact .single hnone.1 hnone.2 (by rw [hzero.1]; decide) (by rw [hzero.2]; decide)
      · obtain ⟨hoffset, hlength⟩ :=
          ByteRange.isValid_iff.1 (hvalid _ (List.mem_singleton.2 rfl))
        exact .single hnone.1 hnone.2 hoffset hlength
    · rename_i hlists
      obtain ⟨hoffset, hlength⟩ := (isValid_zipWith_iff hcounts).1 hvalid
      have hempty : m.bulkOffset = [] ↔ m.bulkLength = [] := by
        rw [← List.length_eq_zero_iff, hcounts, List.length_eq_zero_iff]
      exact .lists (fun h => hlists ⟨h, hempty.1 h⟩) (fun h => hlists ⟨hempty.2 h, h⟩) hcounts
        hoffset hlength

/-- A message asks for ranges exactly if it is well formed, and then for all that it states. -/
theorem ranges_eq_ok_iff : m.ranges = .ok ranges ↔ m.WellFormed ∧ ranges = m.stated := by
  rw [wellFormed_iff, ServerMessage.ranges]
  by_cases hcounts : m.bulkOffset.length = m.bulkLength.length
  · rw [rawRanges_of_counts hcounts, Except.bind]
    cases hfind : m.stated.find? fun range => !range.isValid with
    | none =>
        have hvalid : ∀ range ∈ m.stated, range.isValid = true := by
          simpa using List.find?_eq_none.1 hfind
        exact ⟨fun h => ⟨⟨hcounts, hvalid⟩, (Except.ok.inj h).symm⟩, fun h => by rw [h.2]⟩
    | some range =>
        have hbad : range.isValid = false := by simpa using List.find?_some hfind
        simp only [reduceCtorEq, false_iff]
        rintro ⟨⟨-, hvalid⟩, -⟩
        rw [hvalid range (List.mem_of_find?_eq_some hfind)] at hbad
        cases hbad
  · simp [rawRanges_of_ne hcounts, Except.bind, hcounts]

/-- All ranges that a message asks for are valid. -/
theorem isValid_of_ranges (h : m.ranges = .ok ranges) :
    ∀ range ∈ ranges, range.isValid = true := by
  obtain ⟨hwell, rfl⟩ := ranges_eq_ok_iff.1 h
  exact (wellFormed_iff.1 hwell).2

/-- A message asks for nothing exactly if there is a reason, which it gives. -/
theorem ranges_eq_error_iff : m.ranges = .error fault ↔ m.Spoils fault := by
  rw [ServerMessage.ranges]
  by_cases hcounts : m.bulkOffset.length = m.bulkLength.length
  · rw [rawRanges_of_counts hcounts, Except.bind]
    have hsign (range : ByteRange) :
        range.isValid = false ↔ range.offset.toInt < 0 ∨ range.length.toInt < 0 := by
      rw [← Bool.not_eq_true, ByteRange.isValid_iff, Classical.not_and_iff_not_or_not, Int.not_le,
        Int.not_le]
    constructor
    · intro h
      split at h
      · rename_i range hfind
        cases h
        obtain ⟨hbad, before, after, hstated, hbefore⟩ := List.find?_eq_some_iff_append.1 hfind
        refine .negative before range after hcounts hstated (fun r hr => ?_) ((hsign range).1 ?_)
        · exact ByteRange.isValid_iff.1 (by simpa using hbefore r hr)
        · simpa using hbad
      · cases h
    · rintro (hne | ⟨before, range, after, -, hstated, hbefore, hnegative⟩)
      · exact absurd hcounts hne
      · have hfind : (m.stated.find? fun range => !range.isValid) = some range :=
          List.find?_eq_some_iff_append.2 ⟨by simp [(hsign range).2 hnegative], before, after,
            hstated, fun r hr => by simp [ByteRange.isValid_iff.2 (hbefore r hr)]⟩
        rw [hfind]
  · rw [rawRanges_of_ne hcounts]
    constructor
    · intro h
      cases h
      exact .unequalCounts hcounts
    · rintro (- | ⟨-, -, -, hsame⟩)
      · rfl
      · exact absurd hsame hcounts

/-- A message is well formed, or there is a reason why it is not. -/
theorem wellFormed_or_spoils (m : ServerMessage) : m.WellFormed ∨ ∃ fault, m.Spoils fault := by
  cases h : m.ranges with
  | ok ranges => exact .inl (ranges_eq_ok_iff.1 h).1
  | error fault => exact .inr ⟨fault, ranges_eq_error_iff.1 h⟩

/-- A request for many ranges without a negative number asks for exactly these. -/
theorem ranges_bulkRetr {ranges : List (Int32 × Int32)}
    (h : ∀ range ∈ ranges, 0 ≤ range.1 ∧ 0 ≤ range.2) :
    (bulkRetr ranges).ranges = .ok (ranges.map fun range => ⟨range.1, range.2⟩) := by
  have hstated : (bulkRetr ranges).stated = ranges.map fun range => ⟨range.1, range.2⟩ := by
    cases ranges with
    | nil => rfl
    | cons range ranges => simp [stated, bulkRetr, List.zipWith_map]
  refine ranges_eq_ok_iff.2 ⟨wellFormed_iff.2 ⟨by simp [bulkRetr], ?_⟩, hstated.symm⟩
  intro range hmem
  rw [hstated] at hmem
  obtain ⟨pair, hpair, rfl⟩ := List.mem_map.1 hmem
  obtain ⟨hoffset, hlength⟩ := h pair hpair
  exact ByteRange.isValid_iff.2 ⟨Int32.le_iff_toInt_le.1 hoffset, Int32.le_iff_toInt_le.1 hlength⟩

/-- A request for a single range that is set is one for many ranges of which there is one. -/
theorem ranges_retr {offset length : Int32} (h : ¬ (offset = 0 ∧ length = 0)) :
    (retr offset length).ranges = (bulkRetr [(offset, length)]).ranges := by
  have hraw : (retr offset length).rawRanges = (bulkRetr [(offset, length)]).rawRanges := by
    simp [rawRanges, retr, bulkRetr, h]
  rw [ServerMessage.ranges, ServerMessage.ranges, hraw]

end ServerMessage

end MalwareScan.Wire
