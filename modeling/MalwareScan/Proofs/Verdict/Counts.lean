import MalwareScan.Proofs.Verdict.RoundTrip
import Mathlib.Algebra.Ring.Nat

/-!
# Detections of all engines

Each engine counts its detections in a word of 32 bits, and a detailed verdict adds these words.
There is a sum as long as a word holds it, and then it is exact; but every pair of words stands in
some document. `counted_exactly_iff` says when there is a sum; `counted_none` is a document
without one.
-/

namespace MalwareScan.DetailedVerdict

variable {verdict : DetailedVerdict} {report : EngineReport}

/-- The reports of the engines that are present. -/
def reports (verdict : DetailedVerdict) : List EngineReport :=
  match verdict.engines with
  | some engines => engines.pattern.toList ++ engines.learning.toList
  | none => []

/-- The detections that the engines count, as a number of any size. -/
def total (verdict : DetailedVerdict) : Nat :=
  (verdict.reports.map fun report => report.malwareCount.toNat).sum

/-- An engine that did not report counts for nothing. -/
theorem toNat_countOf (report : Option EngineReport) :
    (countOf report).toNat = (report.toList.map fun report => report.malwareCount.toNat).sum := by
  cases report <;> rfl

/-- Each engine that reports is counted once. -/
theorem total_eq {engines : EngineReports} (h : verdict.engines = some engines) :
    verdict.total = (countOf engines.pattern).toNat + (countOf engines.learning).toNat := by
  rw [total, reports, h, List.map_append, List.sum_append, toNat_countOf, toNat_countOf]

/-- A verdict without reports has no detections. -/
theorem total_of_none (h : verdict.engines = none) : verdict.total = 0 := by
  rw [total, reports, h]
  rfl

/-- The count is a word that holds the number. -/
theorem malwareCount?_eq_some_iff {count : UInt32} :
    verdict.malwareCount? = some count ↔ count.toNat = verdict.total := by
  unfold malwareCount?
  cases hengines : verdict.engines with
  | none =>
      rw [total_of_none hengines, Option.some.injEq, eq_comm]
      exact UInt32.toNat_inj.symm
  | some engines =>
      rw [total_eq hengines]
      show (if (countOf engines.pattern).toNat + (countOf engines.learning).toNat < 2 ^ 32 then
        some (countOf engines.pattern + countOf engines.learning) else none) = some count ↔ _
      split
      case isTrue hfits =>
        have hsum : (countOf engines.pattern + countOf engines.learning).toNat =
            (countOf engines.pattern).toNat + (countOf engines.learning).toNat := by
          rw [UInt32.toNat_add, Nat.mod_eq_of_lt hfits]
        rw [← hsum, Option.some.injEq, eq_comm]
        exact UInt32.toNat_inj.symm
      case isFalse hlarge =>
        have hword := count.toNat_lt
        refine iff_of_false nofun ?_
        omega

/-- There is no count exactly if a word does not hold the number. -/
theorem malwareCount?_eq_none_iff : verdict.malwareCount? = none ↔ 2 ^ 32 ≤ verdict.total := by
  rw [Option.eq_none_iff_forall_ne_some]
  constructor
  · intro hnone
    by_contra hsmall
    -- The word that the number stands for would be the count.
    refine hnone (UInt32.ofNat verdict.total) (malwareCount?_eq_some_iff.2 ?_)
    exact UInt32.toNat_ofNat_of_lt (Nat.lt_of_not_le hsmall)
  · intro hlarge count hcount
    have hword := count.toNat_lt
    rw [malwareCount?_eq_some_iff.1 hcount] at hword
    omega

/-- The number is nothing if no engine counts anything. -/
theorem total_eq_zero_iff :
    verdict.total = 0 ↔ ∀ report ∈ verdict.reports, report.malwareCount = 0 := by
  rw [total, List.sum_eq_zero_iff_forall_eq_nat, List.forall_mem_map]
  simp only [← UInt32.toNat_inj]
  rfl

/-- Every verdict is stated by a document, and it has a count if and only if a word holds the
number of all detections. The count is that number, and it is 0 if and only if no engine counts
anything. -/
theorem counted_exactly_iff (verdict : DetailedVerdict) :
    (∃ text, DetailedVerdict.codec.read text = .ok verdict) ∧
    (∀ count, verdict.malwareCount? = some count ↔ count.toNat = verdict.total) ∧
    (verdict.malwareCount? = none ↔ 2 ^ 32 ≤ verdict.total) ∧
    (verdict.malwareCount? = some 0 ↔ ∀ report ∈ verdict.reports, report.malwareCount = 0) := by
  refine ⟨⟨_, isFaithful_codec.read_write verdict⟩, fun count => malwareCount?_eq_some_iff,
    malwareCount?_eq_none_iff, ?_⟩
  rw [malwareCount?_eq_some_iff, ← total_eq_zero_iff, eq_comm]
  rfl

/-- Two engines that count detections. -/
def overfull : DetailedVerdict where
  engines := some { pattern := some { malwareCount := 4294967295 }
                    learning := some { malwareCount := 1 } }

/-- Their number is the first that a word does not hold, so that there is no count. -/
theorem counted_exactly_iff_overfull :
    2 ^ 32 ≤ overfull.total ∧ overfull.malwareCount? = none := by
  have hlarge : 2 ^ 32 ≤ overfull.total := by decide
  obtain ⟨-, -, hnone, -⟩ := counted_exactly_iff overfull
  exact ⟨hlarge, hnone.2 hlarge⟩

/-- A document that states them. -/
def overfullText : String :=
  "\x7b\"result\":\x7b\"atse\":\x7b\"malwareCount\":4294967295\x7d," ++
    "\"trendx\":\x7b\"malwareCount\":1\x7d\x7d\x7d"

/-- Not every verdict that is read from a document has an exact count. -/
theorem counted_none :
    ¬ ∀ text verdict, (DetailedVerdict.codec.read text).toOption = some verdict →
      ∃ count, verdict.malwareCount? = some count ∧ count.toNat = verdict.total ∧
        (count = 0 ↔ ∀ report ∈ verdict.reports, report.malwareCount = 0) := by
  intro h
  have hread : (DetailedVerdict.codec.read overfullText).toOption = some overfull := by
    decide +kernel
  obtain ⟨count, hcount, -⟩ := h overfullText overfull hread
  have hnone : overfull.malwareCount? = none := by decide
  rw [hnone] at hcount
  cases hcount

end MalwareScan.DetailedVerdict
