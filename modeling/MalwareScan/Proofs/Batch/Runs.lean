import MalwareScan.Batch.Schedule
import MalwareScan.Proofs.Lists.Places
import Mathlib.Algebra.Ring.Nat
import Mathlib.Data.List.Count
import Mathlib.Data.List.Nodup

/-!
# Runs of a batch

An event moves one scan on, and `Moves` says all that it does. From that `Follows` holds along every
run: each scan has been through the events that led to where it stands, in their order, the permits
are either free or with the scans that run, and the collected scans without a verdict are counted.

A batch with at least one permit is never stuck before it is over, and three events for each scan
end it, so that every run can be continued to the end and none goes on forever.
-/

namespace MalwareScan

/-- The scan that an event is about. -/
def BatchEvent.scan : BatchEvent → Nat
  | begin i | finish i _ | collect i => i

namespace Standing

/-- The events that a scan has been through. -/
def past (scan : Nat) : Standing → List BatchEvent
  | waiting => []
  | running => [.begin scan]
  | ended ending => [.begin scan, .finish scan ending]
  | collected ending => [.begin scan, .finish scan ending, .collect scan]

/-- The number of events that are ahead of a scan. -/
def ahead : Standing → Nat
  | waiting => 3
  | running => 2
  | ended _ => 1
  | collected _ => 0

/-- The scan has been collected and has no verdict. -/
def isMissed : Standing → Bool
  | collected ending => ending.isFailure
  | _ => false

end Standing

namespace Batch

variable {b b' : Batch} {event : BatchEvent} {events later : List BatchEvent}
  {permits count : Nat} {old : Standing}

/-! ## Moves -/

/-- An event moves its scan from one standing to the next. The scan holds a permit while it runs,
and it is counted when it is collected without a verdict. -/
structure Moves (b : Batch) (event : BatchEvent) (b' : Batch) (old new : Standing) : Prop where
  stood : b.scans[event.scan]? = some old
  scans : b'.scans = b.scans.set event.scan new
  past : new.past event.scan = old.past event.scan ++ [event]
  ahead : new.ahead + 1 = old.ahead
  permits : b'.permits + (if new == .running then 1 else 0) =
    b.permits + if old == .running then 1 else 0
  failed : b'.failed + (if old.isMissed then 1 else 0) =
    b.failed + if new.isMissed then 1 else 0

/-- Every event that can happen moves a scan on. -/
theorem moves_of_step? (h : b.step? event = some b') : ∃ old new, Moves b event b' old new := by
  cases event with
  | begin i =>
      rw [step?] at h
      split at h
      case isTrue hcan =>
        cases h
        refine ⟨.waiting, .running, hcan.1, rfl, rfl, rfl, ?_, rfl⟩
        show b.permits - 1 + 1 = b.permits
        omega
      case isFalse => cases h
  | finish i ending =>
      rw [step?] at h
      split at h
      case isTrue hruns =>
        cases h
        exact ⟨.running, .ended ending, hruns, rfl, rfl, rfl, rfl, rfl⟩
      case isFalse => cases h
  | collect i =>
      rw [step?] at h
      split at h
      case h_1 ending hended =>
        cases h
        refine ⟨.ended ending, .collected ending, hended, rfl, rfl, rfl, rfl, ?_⟩
        cases ending <;> rfl
      case h_2 => cases h

/-! ## Events that are ahead -/

/-- One scan that moves on leaves one event less ahead of the batch. -/
theorem sum_ahead_set {scans : List Standing} {i : Nat} (new : Standing)
    (h : scans[i]? = some old) :
    ((scans.set i new).map Standing.ahead).sum + old.ahead =
      (scans.map Standing.ahead).sum + new.ahead := by
  induction scans generalizing i with
  | nil => cases h
  | cons standing scans ih =>
      cases i with
      | zero =>
          obtain rfl : standing = old := by simpa using h
          simp only [List.set_cons_zero, List.map_cons, List.sum_cons]
          omega
      | succ i =>
          have hrest := ih (i := i) (by simpa using h)
          simp only [List.set_cons_succ, List.map_cons, List.sum_cons]
          omega

/-! ## What holds along a run -/

/-- The batch of `count` scans, of which `most` may run at a time, follows these events. -/
structure Follows (most count : Nat) (events : List BatchEvent) (b : Batch) : Prop where
  length : b.scans.length = count
  permits : b.permits + b.running = most
  failed : b.failed = b.scans.countP Standing.isMissed
  ahead : events.length + (b.scans.map Standing.ahead).sum = 3 * count
  past : ∀ i, events.filter (·.scan = i) = b.scans[i]?.elim [] (Standing.past i)

/-- A new batch follows no events. -/
theorem follows_of_new? (h : new? permits count = some b) : Follows permits count [] b := by
  rw [new?] at h
  split at h
  case isFalse => cases h
  case isTrue =>
    cases h
    constructor
    case length => exact List.length_replicate
    case permits =>
      show permits + (List.replicate count Standing.waiting).count .running = permits
      simp [List.count_replicate]
    case failed => simp [List.countP_replicate, Standing.isMissed]
    case ahead => simp [Standing.ahead, Nat.mul_comm]
    case past =>
      intro i
      simp only [List.filter_nil, List.getElem?_replicate]
      split <;> rfl

/-- What holds along a run holds after one more event. -/
theorem Follows.step (h : Follows permits count events b) (hstep : b.step? event = some b') :
    Follows permits count (events ++ [event]) b' := by
  obtain ⟨old, new, hmoves⟩ := moves_of_step? hstep
  constructor
  case length => rw [hmoves.scans, List.length_set, h.length]
  case permits =>
    have hrunning := Places.countP_set_add new hmoves.stood (· == .running)
    rw [← hmoves.scans] at hrunning
    have hbefore : b.permits + b.scans.countP (· == .running) = permits := h.permits
    have hpermits := hmoves.permits
    show b'.permits + b'.scans.countP (· == .running) = permits
    omega
  case failed =>
    have hmissed := Places.countP_set_add new hmoves.stood Standing.isMissed
    rw [← hmoves.scans] at hmissed
    have hfailed := hmoves.failed
    have hbefore := h.failed
    omega
  case ahead =>
    have hsum := sum_ahead_set new hmoves.stood
    rw [← hmoves.scans] at hsum
    have hahead := hmoves.ahead
    have hbefore := h.ahead
    rw [List.length_append, List.length_singleton]
    omega
  case past =>
    intro i
    rw [List.filter_append, h.past, hmoves.scans]
    by_cases hi : event.scan = i
    · subst hi
      have hlt : event.scan < b.scans.length := (List.getElem?_eq_some_iff.mp hmoves.stood).1
      rw [hmoves.stood, List.getElem?_set_self hlt, List.filter_cons_of_pos (by simp)]
      exact hmoves.past.symm
    · rw [List.getElem?_set_ne hi, List.filter_cons_of_neg (by simpa using hi)]
      exact List.append_nil _

/-- What holds along a run holds after more events. -/
theorem Follows.play (h : Follows permits count events b) (hplay : b.play later = some b') :
    Follows permits count (events ++ later) b' := by
  induction later generalizing events b with
  | nil =>
      obtain rfl : b = b' := Option.some.inj hplay
      rwa [List.append_nil]
  | cons event later ih =>
      rw [Batch.play, List.foldlM_cons, Option.bind_eq_bind, Option.bind_eq_some_iff] at hplay
      obtain ⟨between, hstep, hrest⟩ := hplay
      have hfollows := ih (h.step hstep) hrest
      rwa [List.append_assoc] at hfollows

/-- No more scans run than there are permits. -/
theorem Follows.running_le (h : Follows permits count events b) : b.running ≤ permits := by
  have hpermits := h.permits
  omega

/-- A run has at most three events for each scan. -/
theorem Follows.length_le (h : Follows permits count events b) : events.length ≤ 3 * count := by
  have hahead := h.ahead
  omega

/-- Every event is about a scan of the batch. -/
theorem Follows.scan_lt (h : Follows permits count events b) (hevent : event ∈ events) :
    event.scan < count := by
  have hmem : event ∈ events.filter (·.scan = event.scan) :=
    List.mem_filter.mpr ⟨hevent, by simp⟩
  rw [h.past] at hmem
  by_contra hge
  rw [List.getElem?_eq_none (by rw [h.length]; omega)] at hmem
  cases hmem

/-- A batch with permits that is not over can go on, however its scans end. -/
theorem Follows.exists_step? (h : Follows permits count events b) (hpermits : 1 ≤ permits)
    (hover : b.isOver = false) (endingOf : Nat → Ending) :
    ∃ event b', b.step? event = some b' ∧
      ∀ i ending, event = .finish i ending → ending = endingOf i := by
  obtain ⟨standing, hmem, hopen⟩ := List.all_eq_false.mp hover
  obtain ⟨i, hi⟩ := List.mem_iff_getElem?.mp hmem
  have hfinishes {j : Nat} (hj : b.scans[j]? = some .running) :
      ∃ event b', b.step? event = some b' ∧
        ∀ i ending, event = .finish i ending → ending = endingOf i := by
    refine ⟨.finish j (endingOf j), _, by rw [step?, if_pos hj], fun i ending hsame => ?_⟩
    cases hsame
    rfl
  cases standing with
  | waiting =>
      -- Either there is a free permit, or a scan runs that can give one back.
      by_cases hfree : 0 < b.permits
      · exact ⟨.begin i, _, by rw [step?, if_pos ⟨hi, hfree⟩], nofun⟩
      · have hbefore := h.permits
        have hrunning : 0 < b.running := by omega
        obtain ⟨j, hj⟩ := List.mem_iff_getElem?.mp (List.count_pos_iff.mp hrunning)
        exact hfinishes hj
  | running => exact hfinishes hi
  | ended ending => exact ⟨.collect i, _, by rw [step?, hi], nofun⟩
  | collected ending => exact absurd rfl hopen

/-! ## Runs to the end -/

/-- At the end of a batch each scan has begun, has ended in one way, and has been collected, all of
this once. -/
theorem Follows.past_of_isOver (h : Follows permits count events b) (hover : b.isOver = true)
    {i : Nat} (hi : i < count) :
    ∃ ending, b.scans[i]? = some (.collected ending) ∧
      events.filter (·.scan = i) = [.begin i, .finish i ending, .collect i] := by
  have hlt : i < b.scans.length := h.length.symm ▸ hi
  have hall := List.all_eq_true.mp hover b.scans[i] (List.getElem_mem hlt)
  have hpast := h.past i
  have hstands := List.getElem?_eq_getElem hlt
  cases hstanding : b.scans[i] with
  | collected ending =>
      rw [hstanding] at hstands
      rw [hstands] at hpast
      exact ⟨ending, hstands, hpast⟩
  | waiting | running | ended => rw [hstanding] at hall; cases hall

/-- The events that belong to a scan say how it ended. -/
theorem finish_mem_iff {i : Nat} {ending : Ending}
    (h : events.filter (·.scan = i) = [.begin i, .finish i ending, .collect i]) (e : Ending) :
    .finish i e ∈ events ↔ e = ending := by
  have hfilter : .finish i e ∈ events ↔ .finish i e ∈ events.filter (·.scan = i) := by
    simp [BatchEvent.scan]
  rw [hfilter, h]
  simp

/-- At the end of a batch those scans are counted that failed or crashed. -/
theorem Follows.failed_of_isOver (h : Follows permits count events b) (hover : b.isOver = true) :
    b.failed = (List.range count).countP fun i =>
      .finish i .failed ∈ events ∨ .finish i .crashed ∈ events := by
  have hscans : b.scans = (List.range count).map fun i => b.scans[i]?.getD .waiting := by
    refine List.ext_getElem (by simp [h.length]) fun i hi _ => ?_
    simp [List.getElem?_eq_getElem hi]
  rw [h.failed, hscans, List.countP_map]
  refine List.countP_congr fun i hi => ?_
  obtain ⟨ending, hstands, hpast⟩ := h.past_of_isOver hover (List.mem_range.mp hi)
  simp only [Function.comp_apply, finish_mem_iff hpast, hstands, Option.getD_some,
    decide_eq_true_eq]
  cases ending <;> simp [Standing.isMissed, Ending.isFailure]

/-- At the end of a batch every scan has been collected as it ended. -/
theorem Follows.scans_of_isOver {endings : List Ending}
    (h : Follows permits endings.length events b)
    (hover : b.isOver = true)
    (hends : ∀ i ending, .finish i ending ∈ events → endings[i]? = some ending) :
    b.scans = endings.map .collected := by
  refine List.ext_getElem? fun i => ?_
  rw [List.getElem?_map]
  by_cases hi : i < endings.length
  · obtain ⟨ending, hstands, hpast⟩ := h.past_of_isOver hover hi
    rw [hstands, hends i ending ((finish_mem_iff hpast ending).2 rfl)]
    rfl
  · rw [List.getElem?_eq_none (Nat.le_of_not_lt hi),
      List.getElem?_eq_none (by rw [h.length]; exact Nat.le_of_not_lt hi)]
    rfl

/-- At the end of a batch each scan has ended once. -/
theorem Follows.perm_of_isOver (h : Follows permits count events b) (hover : b.isOver = true) :
    (events.filterMap BatchEvent.finished?).Perm (List.range count) := by
  refine List.perm_iff_count.2 fun i => ?_
  have hends : ∀ event : BatchEvent, event.finished? = some i → event.scan = i := by
    intro event hends
    cases event with
    | finish j ending => exact Option.some.inj hends
    | begin | collect => cases hends
  have hcount : (events.filterMap BatchEvent.finished?).count i =
      (events.filter (·.scan = i)).countP (·.finished? == some i) := by
    rw [List.count, List.countP_filterMap, List.countP_filter]
    refine List.countP_congr fun event _ => ?_
    cases hfinished : event.finished? with
    | none => simp
    | some j =>
        by_cases hj : j = i
        · subst hj
          simp [hends event hfinished]
        · simp [hj]
  rw [hcount]
  by_cases hi : i < count
  · obtain ⟨ending, -, hpast⟩ := h.past_of_isOver hover hi
    rw [hpast, List.count_eq_one_of_mem List.nodup_range (List.mem_range.2 hi)]
    simp [BatchEvent.finished?]
  · have hnone : events.filter (·.scan = i) = [] := by
      rw [h.past, List.getElem?_eq_none (by rw [h.length]; exact Nat.le_of_not_lt hi)]
      rfl
    rw [hnone, List.count_eq_zero_of_not_mem (by simpa using hi)]
    rfl

/-- A scan that has its turn while none runs gives its permit back and is collected. -/
theorem play_turn (done rest : List Standing) (failed : Nat) (ending : Ending) :
    play ⟨permits + 1, done ++ .waiting :: rest, failed⟩
        [.begin done.length, .finish done.length ending, .collect done.length] =
      some ⟨permits + 1, done ++ .collected ending :: rest,
        if ending.isFailure then failed + 1 else failed⟩ := by
  simp [play, step?, List.set_append_right]

/-- Scans that run one after the other, behind those that are done, are all collected. -/
theorem play_oneByOne_append (done : List Standing) (failed : Nat) (endings : List Ending) :
    play ⟨permits + 1, done ++ List.replicate endings.length .waiting, failed⟩
        (oneByOne done.length endings) =
      some ⟨permits + 1, done ++ endings.map .collected,
        failed + endings.countP Ending.isFailure⟩ := by
  induction endings generalizing done failed with
  | nil => rfl
  | cons ending endings ih =>
      have hrest := ih (done ++ [.collected ending])
        (if ending.isFailure then failed + 1 else failed)
      rw [List.append_assoc, List.append_assoc, List.length_append] at hrest
      rw [List.length_cons, List.replicate_succ, oneByOne, play, List.foldlM_append, ← play,
        play_turn]
      refine hrest.trans ?_
      rw [List.countP_cons]
      congr 2
      split <;> omega

/-- Scans that run one after the other are all collected. -/
theorem play_oneByOne (hpermits : 1 ≤ permits) (endings : List Ending) :
    play ⟨permits, List.replicate endings.length .waiting, 0⟩ (oneByOne 0 endings) =
      some ⟨permits, endings.map .collected, endings.countP Ending.isFailure⟩ := by
  obtain ⟨permits, rfl⟩ := Nat.exists_eq_add_of_le' hpermits
  have hplay : play ⟨permits + 1, [] ++ List.replicate endings.length .waiting, 0⟩
      (oneByOne 0 endings) = _ := play_oneByOne_append [] 0 endings
  simpa using hplay

/-- Scans that come one after the other end as they are told to. -/
theorem exists_of_finish_mem_oneByOne {first i : Nat} {ending : Ending} {endings : List Ending}
    (h : .finish i ending ∈ oneByOne first endings) :
    ∃ k, i = first + k ∧ endings[k]? = some ending := by
  induction endings generalizing first with
  | nil => cases h
  | cons head endings ih =>
      rw [oneByOne] at h
      rcases List.mem_append.mp h with hturn | hrest
      · obtain ⟨rfl, rfl⟩ : i = first ∧ ending = head := by simpa using hturn
        exact ⟨0, rfl, rfl⟩
      · obtain ⟨k, rfl, hk⟩ := ih hrest
        exact ⟨k + 1, by omega, hk⟩

end Batch

end MalwareScan
