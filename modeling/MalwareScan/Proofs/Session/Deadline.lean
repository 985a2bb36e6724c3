import MalwareScan.Proofs.Session.Budget
import MalwareScan.Proofs.Session.Serving

/-!
# Waiting for room

A session waits for room again and again, and its time is counted from its start, over all ranges
and all messages. So it can wait in vain only so many times: each such wait takes `readyInterval`,
and the first one that ends too late ends the session. `Clocked` says how time goes by in a run; in
surroundings that keep time it goes by so in all runs. The main theorem is `waits_end_in_time`.
-/

namespace MalwareScan

open Wire (ByteRange ServerMessage Status)

namespace Session

/-! ## Waits in vain -/

/-- The times at which waits in vain ended, in order. -/
def stalls (log : List Turn) : List Duration := log.filterMap Turn.stalled?

/-- The end of the first wait in vain that took too long. -/
def firstLate (terms : Terms) (log : List Turn) : Option Duration :=
  (stalls log).find? fun elapsed => terms.timeout.nanos < elapsed.nanos

/-- A read failed because time was up, as a source may say on its own. -/
def Turn.isReadLate : Turn → Bool
  | (_, .read result) =>
    match result.outcome with
    | .error (.deadlineExceeded _) => true
    | _ => false
  | _ => false

/-- The time `now` has come, in nanoseconds from the start of the session, after these turns. It
never goes back, however long a turn takes, and a wait in vain takes `readyInterval` or more. -/
inductive Clocked : List Turn → (now : Nat) → Prop where
  | start (now) : Clocked [] now
  | turn {log now turn later} (hlog : Clocked log now) (hlater : now ≤ later)
      (hstalled : ∀ elapsed, Turn.stalled? turn = some elapsed →
        now + readyInterval.nanos ≤ elapsed.nanos ∧ elapsed.nanos ≤ later) :
      Clocked (log ++ [turn]) later

variable {σ : Type} {terms : Terms} {around : Surroundings σ} {s t : Session} {world w w' : σ}
  {event : Event} {signals : List Signal} {log : List Turn} {turn : Turn} {now later : Nat}
  {elapsed : Duration}

@[simp] theorem stalls_snoc (log : List Turn) (turn : Turn) :
    stalls (log ++ [turn]) = stalls log ++ turn.stalled?.toList := by
  cases h : turn.stalled? <;> simp [stalls, h]

/-- The last turn of a run fits the time. -/
theorem Clocked.of_snoc (h : Clocked (log ++ [turn]) later) :
    ∃ now, Clocked log now ∧ now ≤ later ∧ ∀ elapsed, turn.stalled? = some elapsed →
      now + readyInterval.nanos ≤ elapsed.nanos ∧ elapsed.nanos ≤ later := by
  generalize hlog : log ++ [turn] = whole at h
  cases h with
  | start => simp at hlog
  | turn hclocked hlater hstalled =>
      obtain ⟨rfl, hturn⟩ := List.append_inj' hlog rfl
      cases hturn
      exact ⟨_, hclocked, hlater, hstalled⟩

/-- The waits in vain of a run take their time. -/
theorem Clocked.stalls_le (h : Clocked log now) :
    (stalls log).length * readyInterval.nanos ≤ now := by
  induction h with
  | start => simp [stalls]
  | @turn log now turn later _ hlater hstalled ih =>
      rw [stalls_snoc, List.length_append, Nat.add_mul]
      cases hturn : turn.stalled? with
      | none => simpa using Nat.le_trans ih hlater
      | some elapsed =>
          have hwait := hstalled elapsed hturn
          simp only [Option.toList_some, List.length_singleton, Nat.one_mul]
          omega

/-! ## The end by the deadline -/

/-- Only a session that is not over waits for room. -/
theorem open_of_stalled? (h : Turn.stalled? (s.request terms, event) = some elapsed) :
    s.phase ≠ .done := by
  intro hdone
  rw [request_of_done hdone] at h
  cases h

/-- The event that a session waits for is a late ending exactly if it is a wait in vain that took
too long. -/
theorem ending?_eq_late_iff {request : Request} (h : request.awaits event = true) :
    event.ending? terms = some (.late elapsed) ↔
      Turn.stalled? (request, event) = some elapsed ∧ terms.timeout.nanos < elapsed.nanos := by
  cases event with
  | message m =>
      have hnot : Ending.ofMessage? m ≠ some (.late elapsed) := fun hlate =>
        Bool.noConfusion (isLate_of_ofMessage? hlate)
      cases request <;> simp [Event.ending?, Turn.stalled?, hnot]
  | read result =>
      cases hread : result.outcome <;> cases request <;>
        simp [Event.ending?, Turn.stalled?, hread]
  | noRoom time =>
      cases request <;> simp [Request.awaits, Event.isCall] at h
      simp only [Event.ending?, Turn.stalled?, Option.ite_none_right_eq_some, Option.some.injEq,
        Ending.late.injEq]
      constructor
      · rintro ⟨hlate, rfl⟩
        exact ⟨rfl, hlate⟩
      · rintro ⟨rfl, hlate⟩
        exact ⟨hlate, rfl⟩
  | failed | closed | room | sent | notSent => cases request <;> simp [Event.ending?, Turn.stalled?]

/-- The first late ending of a run is the first wait in vain that took too long. -/
theorem firstLate_snoc (log : List Turn) (turn : Turn) :
    firstLate terms (log ++ [turn]) = (firstLate terms log).or
      (turn.stalled?.filter fun elapsed => terms.timeout.nanos < elapsed.nanos) := by
  rw [firstLate, stalls_snoc, List.find?_append, firstLate]
  cases turn.stalled? with
  | none => rfl
  | some elapsed =>
      by_cases hlate : terms.timeout.nanos < elapsed.nanos <;> simp [hlate, Option.filter]

/-- A session is ended by its deadline exactly if a wait in vain took too long, and by the first one
that did. -/
theorem Path.late_iff (h : Path terms {} log t) :
    firstEnding terms log = some (.late elapsed) ↔ firstLate terms log = some elapsed := by
  induction h generalizing elapsed with
  | start => simp [firstEnding, firstLate, stalls]
  | @turn log t event t' signals hpath hawaits _ ih =>
      rw [firstEnding_snoc, firstLate_snoc]
      by_cases hdone : t.phase = .done
      · -- A session that is over does not wait.
        obtain ⟨ending, hending⟩ := Option.isSome_iff_exists.1 (hpath.concluded.2.1 hdone)
        have hquiet : Turn.stalled? (t.request terms, event) = none := by
          rw [Option.eq_none_iff_forall_ne_some]
          exact fun _ hturn => open_of_stalled? hturn hdone
        rw [hquiet, Option.filter_none, Option.or_none, ← ih, hending, Option.some_or]
      · have hnone : firstEnding terms log = none := by simpa [hdone] using hpath.concluded.2
        have hintime : firstLate terms log = none := by
          rw [Option.eq_none_iff_forall_ne_some]
          intro elapsed hlate
          rw [← ih, hnone] at hlate
          cases hlate
        rw [hnone, hintime, Option.none_or, Option.none_or, ending?_eq_late_iff hawaits,
          Option.filter_eq_some_iff, decide_eq_true_eq]

/-- No wait of an open session took too long so far. -/
theorem Path.firstLate_eq_none (h : Path terms {} log t) (hopen : t.phase ≠ .done) :
    firstLate terms log = none := by
  have hnone : firstEnding terms log = none := by simpa [hopen] using h.concluded.2
  rw [Option.eq_none_iff_forall_ne_some]
  intro elapsed hlate
  rw [← h.late_iff, hnone] at hlate
  cases hlate

/-- A read that ends a session by its deadline failed for this reason. -/
theorem isReadLate_of_ending? {request : Request}
    (h : event.ending? terms = some (.unreadable (.deadlineExceeded elapsed))) :
    Turn.isReadLate (request, event) = true := by
  obtain ⟨result, rfl, hread⟩ := Event.read_of_unreadable h
  simp [Turn.isReadLate, hread]

/-- A session is told that its deadline has passed exactly if a late wait ended it, unless a read
failed for this reason. -/
theorem Path.outcome_eq_deadlineExceeded_iff (h : Path terms {} log t)
    (hreads : ∀ turn ∈ log, turn.isReadLate = false) :
    t.outcome = some (.error (.deadlineExceeded elapsed)) ↔
      firstEnding terms log = some (.late elapsed) := by
  rw [h.concluded.1]
  cases hfirst : firstEnding terms log with
  | none => simp
  | some ending =>
      rw [Option.map_some, Option.some.injEq, Option.some.injEq]
      cases ending with
      | late => simp [Ending.outcome]
      | quit | unknownCommand | outsideRun | malformed | closed => simp [Ending.outcome]
      | failed status =>
          simp only [Ending.outcome, statusError]
          split <;> simp
      | unreadable e =>
          -- The error is that of a read in the run.
          obtain ⟨⟨request, event⟩, hmem, hending⟩ := List.exists_of_findSome?_eq_some hfirst
          have hread := hreads _ hmem
          have he : e ≠ .deadlineExceeded elapsed := by
            rintro rfl
            exact Bool.noConfusion (hread.symm.trans (isReadLate_of_ending? hending))
          simp [Ending.outcome, he]

/-- After an ending the session asks its surroundings for nothing. -/
theorem Path.nothing_after_ending (h : Path terms {} log t) :
    log.Pairwise fun turn later => (turn.2.ending? terms).isSome = true → later.1 = .nothing := by
  induction h with
  | start => exact .nil
  | @turn log t event t' signals hpath _ _ ih =>
      refine List.pairwise_append.2 ⟨ih, List.pairwise_singleton _ _, ?_⟩
      intro turn hmem later hlater hending
      have hdone : t.phase = .done :=
        hpath.concluded.2.2 (List.findSome?_isSome_iff.2 ⟨turn, hmem, hending⟩)
      rw [List.mem_singleton.1 hlater]
      exact request_of_done hdone

/-- So many waits can be in vain: as many as fit into the time, and one that is late. -/
theorem Path.length_stalls_le (h : Path terms {} log t) (hclocked : Clocked log now) :
    (stalls log).length ≤ terms.timeout.nanos / readyInterval.nanos +
      if (firstLate terms log).isSome = true then 1 else 0 := by
  have hinterval : 0 < readyInterval.nanos := by decide
  induction h generalizing now with
  | start => exact Nat.zero_le _
  | @turn log t event t' signals hpath hawaits _ ih =>
      obtain ⟨now, hbefore, -, hstalled⟩ := hclocked.of_snoc
      have hcount := ih hbefore
      rw [stalls_snoc, firstLate_snoc, List.length_append]
      cases hturn : Turn.stalled? (t.request terms, event) with
      | none => simpa using hcount
      | some elapsed =>
          obtain ⟨hwait, -⟩ := hstalled elapsed hturn
          -- The session was open, so all earlier waits in vain were in time.
          have hintime := hpath.firstLate_eq_none (open_of_stalled? hturn)
          rw [hintime] at hcount ⊢
          have htime := hbefore.stalls_le
          by_cases hlate : terms.timeout.nanos < elapsed.nanos
          · simp [Option.filter, hlate] at hcount ⊢
            omega
          · have hfits : (stalls log).length + 1 ≤ terms.timeout.nanos / readyInterval.nanos := by
              rw [Nat.le_div_iff_mul_le hinterval, Nat.add_mul]
              omega
            simpa [Option.filter, hlate] using hfits

/-- A call of the scanner is no wait in vain. -/
theorem stalled?_of_isCall (request : Request) (h : event.isCall = true) :
    Turn.stalled? (request, event) = none := by
  cases event with
  | message | failed | closed => cases request <;> rfl
  | read | room | noRoom | sent | notSent => cases h

/-- In a turn that was late the wait was an ending. -/
theorem isSome_ending?_of_isLate (h : turn.isLate terms = true) :
    (turn.2.ending? terms).isSome = true := by
  obtain ⟨request, event⟩ := turn
  cases request <;> cases event <;> simp_all [Turn.isLate, Event.ending?]

section

variable {clock : σ → Nat} (hclock : around.KeepsTime clock)

include hclock

/-- A run in surroundings with a clock takes the time that they show. -/
theorem Runs.clocked (h : Runs terms around s world log t w) : Clocked log (clock w) := by
  induction h with
  | start => exact .start _
  | @answer log t w event w' _ hserve ih =>
      obtain ⟨hlater, hstalled⟩ := clock_serve hclock hserve
      have hact := clock_act hclock terms t event w'
      refine .turn ih (Nat.le_trans hlater hact) fun elapsed hturn => ?_
      obtain ⟨hwait, htold⟩ := hstalled elapsed hturn
      exact ⟨hwait, Nat.le_trans htold hact⟩
  | @call log t w event _ _ hcall ih =>
      refine .turn ih (clock_act hclock terms t event w) fun elapsed hturn => ?_
      rw [stalled?_of_isCall (t.request terms) hcall] at hturn
      cases hturn

end

/-! ## The main theorem -/

/-- However long the turns of a session take, as long as time does not go back and each wait in
vain takes `readyInterval`: it waits in vain as often as `readyInterval` fits into its time, and
once more at most, over all its ranges and messages. If no read failed because time was up, its
outcome says that its deadline has passed exactly if a wait in vain ended after its time, not at
it, and it names the end of the first one that did. After a late wait it asks for nothing more: it
reads nothing, sends nothing and does not wait.

In surroundings that keep time all runs are such, and with the turns of its budget a session answers
all calls. A whole call ends within this budget, at rest: it is such a run, with the scanner's
messages and the end of the stream as its calls. -/
theorem waits_end_in_time (terms : Terms) :
    (∀ log s now, Path terms {} log s → Clocked log now →
      (stalls log).length ≤ terms.timeout.nanos / readyInterval.nanos + 1 ∧
      ((∀ turn ∈ log, turn.isReadLate = false) → ∀ elapsed,
        s.outcome = some (.error (.deadlineExceeded elapsed)) ↔
          firstLate terms log = some elapsed) ∧
      log.Pairwise fun turn later => turn.isLate terms = true → later.1 = .nothing) ∧
    (∀ (σ : Type) (around : Surroundings σ) (clock : σ → Nat) (world : σ), around.KeepsTime clock →
      (∀ log s w, Runs terms around {} world log s w →
        Path terms {} log s ∧ Clocked log (clock w)) ∧
      (∀ events, (receiveAll? terms around (budget terms) {} world events).isSome = true) ∧
      ∀ items,
        drive? terms around (budget terms) {} world items =
          some (drive terms around {} world items) ∧
        (drive terms around {} world items).1.AtRest terms ∧
        ∃ log, Runs terms around {} world log (drive terms around {} world items).1
            (drive terms around {} world items).2 ∧
          calls log = items.map Event.ofItem ++ [.closed]) := by
  refine ⟨fun log s now hpath hclocked => ⟨?_, ?_, ?_⟩, fun σ around clock world hclock =>
    ⟨?_, ?_, ?_⟩⟩
  · have hcount := hpath.length_stalls_le hclocked
    split at hcount <;> omega
  · intro hreads elapsed
    rw [hpath.outcome_eq_deadlineExceeded_iff hreads, hpath.late_iff]
  · exact hpath.nothing_after_ending.imp fun hnothing hlate =>
      hnothing (isSome_ending?_of_isLate hlate)
  · exact fun log s w hrun => ⟨hrun.path, hrun.clocked hclock⟩
  · exact fun events => isSome_receiveAll? hclock events
  · exact drive_runs hclock (.inl rfl)

/-- Surroundings without room, with the time as their state: a read takes 150 milliseconds, and a
wait in vain 250. -/
def crowded : Surroundings Nat where
  read now _ capacity := (.of (List.replicate capacity 0), now + (Duration.ofMillis 150).nanos)
  waitForRoom now :=
    (some ⟨now + (Duration.ofMillis 250).nanos⟩, now + (Duration.ofMillis 250).nanos)
  send now _ := (true, now)
  signal now _ := now

/-- In surroundings without room time goes by. -/
theorem crowded_keepsTime : crowded.KeepsTime id where
  read now offset capacity := by simp [crowded]
  send now m := by simp [crowded]
  signal now signal := by simp [crowded]
  room now := by simp [crowded]
  noRoom now elapsed h := by
    have hlong : readyInterval.nanos ≤ (Duration.ofMillis 250).nanos := by decide
    simp only [crowded, Option.some.injEq] at h ⊢
    subst h
    exact ⟨Nat.add_le_add_left hlong now, Nat.le_refl _⟩

/-- A wait that ends at the time of the session does not end it, the next one does. -/
theorem waits_end_in_time_crowded :
    ∃ log s w, Runs ⟨1, .ofMillis 400⟩ crowded {} 0 log s w ∧
      stalls log = [.ofMillis 400, .ofMillis 650] ∧ (stalls log).length ≤ 2 + 1 ∧
      s.outcome = some (.error (.deadlineExceeded (.ofMillis 650))) ∧
      log.Pairwise (fun turn later =>
        turn.isLate ⟨1, .ofMillis 400⟩ = true → later.1 = .nothing) ∧
      drive? ⟨1, .ofMillis 400⟩ crowded (budget ⟨1, .ofMillis 400⟩) {} 0
        [.ok (.bulkRetr [(0, 1)])] = some (s, w) ∧
      calls log = [.message (.bulkRetr [(0, 1)]), .closed] := by
  have hstart : Runs ⟨1, .ofMillis 400⟩ crowded {} 0 [] {} 0 := .start
  have hread := (hstart.call (.message (.bulkRetr [(0, 1)])) (.inl rfl) rfl).answer rfl
  have hrun := ((hread.answer rfl).answer rfl).call .closed (.inr rfl) rfl
  obtain ⟨hall, haround⟩ := waits_end_in_time ⟨1, .ofMillis 400⟩
  obtain ⟨hruns, -, hdrive⟩ := haround Nat crowded id 0 crowded_keepsTime
  obtain ⟨hpath, hclocked⟩ := hruns _ _ _ hrun
  obtain ⟨hcount, houtcome, hquiet⟩ := hall _ _ _ hpath hclocked
  refine ⟨_, _, _, hrun, by decide, hcount, ?_, hquiet, (hdrive _).1, rfl⟩
  exact (houtcome (by decide) _).2 (by decide)

end Session

end MalwareScan
