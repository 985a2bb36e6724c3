import MalwareScan.Proofs.Session.Runs

/-!
# The outcome of a session

A session has one outcome, that of the first event that is an ending. It is there exactly when the
session is over, and from then on nothing moves any more, neither the session nor its surroundings.
The main theorem is `session_concludes_once`.
-/

namespace MalwareScan

/-- The order of the phases. -/
def Phase.rank : Phase → Nat
  | initSent => 0
  | running => 1
  | done => 2

namespace Session

/-- The first ending in a run. -/
def firstEnding (terms : Terms) (log : List Turn) : Option Ending :=
  log.findSome? fun turn => turn.2.ending? terms

variable {σ : Type} {terms : Terms} {around : Surroundings σ} {s t : Session} {world w : σ}
  {event : Event} {signals : List Signal} {log : List Turn}

/-- One more turn only counts if there was no ending before. -/
theorem firstEnding_snoc (log : List Turn) (turn : Turn) :
    firstEnding terms (log ++ [turn]) = (firstEnding terms log).or (turn.2.ending? terms) := by
  simp [firstEnding, List.findSome?_append]

/-- No move goes back to an earlier phase. -/
theorem Moves.rank_le (h : s.Moves terms event t signals) : s.phase.rank ≤ t.phase.rank := by
  cases h with
  | ends => cases h : s.phase <;> simp [finish, Phase.rank]
  | asked _ _ hopen => cases h : s.phase <;> simp_all [Phase.rank]
  | ignored | read | room | stalled | sent | notSent => exact Nat.le_refl _

/-- No path goes back to an earlier phase. -/
theorem Path.rank_le (h : Path terms s log t) : s.phase.rank ≤ t.phase.rank := by
  induction h with
  | start => exact Nat.le_refl _
  | turn _ _ hmove ih => exact Nat.le_trans ih hmove.rank_le

/-- The outcome of a new session is that of the first ending, and the session is over as soon as
there is one. -/
theorem Path.concluded (h : Path terms {} log t) :
    t.outcome = (firstEnding terms log).map Ending.outcome ∧
      (t.phase = .done ↔ (firstEnding terms log).isSome = true) := by
  induction h with
  | start => simp [firstEnding]
  | @turn log t event t' signals _ _ hmove ih =>
      obtain ⟨houtcome, hphase⟩ := ih
      -- A later ending does not count: the session is over and does not move any more.
      rw [firstEnding_snoc]
      by_cases hdone : t.phase = .done
      · obtain ⟨rfl, -⟩ := hmove.eq_of_done hdone
        obtain ⟨ending, hending⟩ := Option.isSome_iff_exists.1 (hphase.1 hdone)
        simp [houtcome, hending, hdone]
      · have hnone : firstEnding terms log = none := by simpa [hdone] using hphase
        rw [hnone, Option.none_or]
        obtain ⟨ending, hending, rfl, -⟩ | ⟨hending, hopen, hsame, -⟩ := hmove.ending_or_open hdone
        · simp [hending, finish]
        · simp [hending, hopen, hsame, houtcome, hnone]

/-- Nothing happens in a run of a session that is over. -/
theorem Runs.eq_of_done (h : Runs terms around s world log t w) (hdone : s.phase = .done) :
    t = s ∧ w = world := by
  induction h with
  | start => exact ⟨rfl, rfl⟩
  | answer _ hserve ih =>
      obtain ⟨rfl, rfl⟩ := ih
      rw [request_of_done hdone] at hserve
      cases hserve
  | @call log t w event _ _ _ ih =>
      obtain ⟨rfl, rfl⟩ := ih
      have hstep : t.step terms event = (t, []) := step_of_isDone (by simp [isDone, hdone]) event
      simp [act, hstep]

/-- A session that was told that the stream is closed is over. -/
theorem Path.done_of_closed (h : Path terms {} log t) (hclosed : .closed ∈ calls log) :
    t.phase = .done := by
  rw [h.concluded.2, firstEnding, List.findSome?_isSome_iff]
  simp only [calls, List.mem_filter, List.mem_map] at hclosed
  obtain ⟨⟨turn, hmem, hturn⟩, -⟩ := hclosed
  exact ⟨turn, hmem, by simp [hturn, Event.ending?]⟩

/-- At every point of every run, whatever the surroundings answer and whatever the scanner calls,
the session has an outcome exactly if it is over, and it is that of the first ending. Phases only
go forward. What comes after the end changes neither the session nor its surroundings, which may
remember all that they were asked. Any calls in any order are such a run, and so is a whole call,
at whose end the outcome is there, however many turns it was allowed. -/
theorem session_concludes_once (terms : Terms) (around : Surroundings σ) (world : σ) :
    (∀ log s w more s' w', Runs terms around {} world log s w → Runs terms around s w more s' w' →
      s.phase.rank ≤ s'.phase.rank ∧
      (s.isDone = true ↔ s.outcome.isSome = true) ∧
      s.outcome = (firstEnding terms log).map Ending.outcome ∧
      (s.isDone = true → s' = s ∧ w' = w)) ∧
    (∀ allowed events s w, (∀ event ∈ events, event.isCall = true) →
      receiveAll? terms around allowed {} world events = some (s, w) →
      ∃ log, Runs terms around {} world log s w ∧ calls log = events) ∧
    (∀ allowed items s w, drive? terms around allowed {} world items = some (s, w) →
      ∃ log ending, Runs terms around {} world log s w ∧
        calls log = items.map Event.ofItem ++ [.closed] ∧
        firstEnding terms log = some ending ∧ s.isDone = true ∧
        s.outcome = some ending.outcome ∧ s.completion = ending.outcome) := by
  have hrest : AtRest terms {} := .inl rfl
  refine ⟨?_, ?_, ?_⟩
  · intro log s w more s' w' hrun hmore
    obtain ⟨houtcome, hphase⟩ := hrun.path.concluded
    have hdone : s.isDone = true ↔ s.phase = .done := by simp [isDone]
    refine ⟨hmore.path.rank_le, ?_, houtcome, fun h => hmore.eq_of_done (hdone.1 h)⟩
    rw [hdone, hphase, houtcome, Option.isSome_map]
  · intro allowed events s w hevents h
    obtain ⟨log, hrun, hcalls, -⟩ := receiveAll?_runs hrest hevents h
    exact ⟨log, hrun, hcalls⟩
  · intro allowed items s w h
    obtain ⟨log, hrun, hcalls, -⟩ := drive?_runs hrest h
    have hdone : s.phase = .done := hrun.path.done_of_closed (by simp [hcalls])
    obtain ⟨houtcome, hphase⟩ := hrun.path.concluded
    obtain ⟨ending, hending⟩ := Option.isSome_iff_exists.1 (hphase.1 hdone)
    refine ⟨log, ending, hrun, hcalls, hending, by simp [isDone, hdone], ?_, ?_⟩
    · rw [houtcome, hending, Option.map_some]
    · rw [completion, houtcome, hending, Option.map_some, Option.getD_some]

/-- Surroundings without content that remember the signals. -/
def attentive : Surroundings (List Signal) where
  read signals _ _ := (.of [], signals)
  waitForRoom signals := (none, signals)
  send signals _ := (true, signals)
  signal signals signal := signals ++ [signal]

/-- A scanner that ends a scan twice: the first result is the outcome, and the stream is told once
that it is complete. -/
theorem session_concludes_once_quit :
    ∃ log s w, drive? ⟨0, ⟨0⟩⟩ attentive (budget ⟨0, ⟨0⟩⟩) {} []
        [.ok (.quit "clean"), .ok (.quit "late")] = some (s, w) ∧
      Runs ⟨0, ⟨0⟩⟩ attentive {} [] log s w ∧
      calls log = [.message (.quit "clean"), .message (.quit "late"), .closed] ∧
      s.outcome = some (.ok "clean") ∧ w = [.halfClose] ∧
      ∀ more s' w', Runs ⟨0, ⟨0⟩⟩ attentive s w more s' w' → s' = s ∧ w' = w := by
  obtain ⟨hruns, -, hdrive⟩ := session_concludes_once ⟨0, ⟨0⟩⟩ attentive []
  obtain ⟨log, ending, hrun, hcalls, -, hdone, -, -⟩ := hdrive (budget ⟨0, ⟨0⟩⟩)
    [.ok (.quit "clean"), .ok (.quit "late")] _ _ rfl
  refine ⟨log, _, _, rfl, hrun, hcalls, rfl, rfl, fun more s' w' hmore => ?_⟩
  obtain ⟨-, -, -, hstays⟩ := hruns _ _ _ _ _ _ hrun hmore
  exact hstays hdone

end Session

end MalwareScan
