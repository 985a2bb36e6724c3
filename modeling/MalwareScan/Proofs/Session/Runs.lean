import MalwareScan.Proofs.Session.Moves

/-!
# Runs of a session

A run is everything that happens to a session, turn by turn: the scanner's calls and the answers of
the surroundings. `Path` is a run as the session sees it, and `Runs` one in given surroundings. What
every move preserves is proved of a `Path` by induction; `Runs.path` carries it over.

The functions that act until the session comes to rest give such runs: `receiveAll?_runs` for any
calls in any order, and `drive?_runs` for the messages of a whole call. How many turns they are
allowed does not matter as long as these are enough: behind a run of answers a session settles as it
does before it (`Runs.settle?_eq`).
-/

namespace MalwareScan.Session

open Wire (ServerMessage Status)

/-- What a session waited for, and what happened then. -/
abbrev Turn := Request × Event

/-- The session can go from `s` to the last session by these turns. -/
inductive Path (terms : Terms) (s : Session) : List Turn → Session → Prop where
  | start : Path terms s [] s
  | turn {log t event t' signals} (hpath : Path terms s log t)
      (hawaits : (t.request terms).awaits event = true) (hmove : t.Moves terms event t' signals) :
      Path terms s (log ++ [(t.request terms, event)]) t'

/-- The session waits for the scanner, or it is over. -/
def AtRest (terms : Terms) (s : Session) : Prop :=
  s.request terms = .message ∨ s.request terms = .nothing

/-- The session and its surroundings go from `s` and `world` to the last ones by these turns: the
surroundings answer the session's requests, and the scanner calls a session that is at rest. -/
inductive Runs {σ : Type} (terms : Terms) (around : Surroundings σ) (s : Session) (world : σ) :
    List Turn → Session → σ → Prop where
  | start : Runs terms around s world [] s world
  | answer {log t w event w'} (hrun : Runs terms around s world log t w)
      (hserve : (t.request terms).serve around w = some (event, w')) :
      Runs terms around s world (log ++ [(t.request terms, event)])
        (t.act terms around w' event).1 (t.act terms around w' event).2
  | call {log t w} (event) (hrun : Runs terms around s world log t w) (hrest : t.AtRest terms)
      (hcall : event.isCall = true) :
      Runs terms around s world (log ++ [(t.request terms, event)])
        (t.act terms around w event).1 (t.act terms around w event).2

/-- The scanner's calls in a run. -/
def calls (log : List Turn) : List Event :=
  (log.map Prod.snd).filter Event.isCall

/-- The session after these calls, each of which it answers until it is at rest. -/
def receiveAll? {σ : Type} (terms : Terms) (around : Surroundings σ) (allowed : Session → Nat)
    (s : Session) (world : σ) : List Event → Option (Session × σ)
  | [] => some (s, world)
  | event :: events =>
    (s.receive? terms around allowed world event).bind fun (s, world) =>
      receiveAll? terms around allowed s world events

variable {σ : Type} {terms : Terms} {around : Surroundings σ} {allowed : Session → Nat}
  {turns : Nat} {s t t' : Session}
  {world w w' : σ} {event : Event} {log : List Turn}

@[simp] theorem calls_cons (turn : Turn) (log : List Turn) :
    calls (turn :: log) = if turn.2.isCall then turn.2 :: calls log else calls log := by
  simp [calls, List.filter_cons]

@[simp] theorem calls_append (log more : List Turn) :
    calls (log ++ more) = calls log ++ calls more := by
  simp [calls]

/-- The surroundings answer with an event that the session waits for. -/
theorem awaits_of_serve {request : Request} (h : request.serve around w = some (event, w')) :
    request.awaits event = true ∧ event.isCall = false := by
  cases request with
  | message | nothing => cases h
  | read offset capacity =>
      simp only [Request.serve, Option.some.injEq, Prod.mk.injEq] at h
      obtain ⟨rfl, -⟩ := h
      exact ⟨rfl, rfl⟩
  | room =>
      simp only [Request.serve] at h
      split at h <;> cases h <;> exact ⟨rfl, rfl⟩
  | send m =>
      simp only [Request.serve, Option.some.injEq, Prod.mk.injEq] at h
      obtain ⟨rfl, -⟩ := h
      split <;> exact ⟨rfl, rfl⟩

/-- The surroundings have no answer exactly when the session is at rest. -/
theorem serve_eq_none_iff :
    (s.request terms).serve around w = none ↔ s.AtRest terms := by
  unfold AtRest
  cases s.request terms with
  | message | nothing | read | send => simp [Request.serve]
  | room =>
      simp only [Request.serve]
      split <;> simp

/-- A session at rest waits for any call. -/
theorem AtRest.awaits (h : s.AtRest terms) (hcall : event.isCall = true) :
    (s.request terms).awaits event = true := by
  rcases h with h | h <;> rw [h] <;> exact hcall

/-- A session that is over is at rest. -/
theorem atRest_of_done (h : s.phase = .done) : s.AtRest terms :=
  .inr (request_of_done h)

/-- An open session is at rest exactly when it has no task. -/
theorem task_of_atRest (hopen : s.phase ≠ .done) (h : s.AtRest terms) : s.task = .idle := by
  unfold AtRest at h
  rw [request_of_open hopen] at h
  cases htask : s.task <;> simp [htask] at h ⊢

/-- A run is a path of its session. -/
theorem Runs.path (h : Runs terms around s world log t w) : Path terms s log t := by
  induction h with
  | start => exact .start
  | answer hrun hserve ih =>
      have hawaits := (awaits_of_serve hserve).1
      exact .turn ih hawaits (step_moves hawaits)
  | call event hrun hrest hcall ih =>
      have hawaits := hrest.awaits hcall
      exact .turn ih hawaits (step_moves hawaits)

/-- Runs can be put together. -/
theorem Runs.append {more : List Turn} (h : Runs terms around s world log t w)
    (hmore : Runs terms around t w more t' w') :
    Runs terms around s world (log ++ more) t' w' := by
  induction hmore with
  | start => simpa using h
  | answer hrun hserve ih =>
      rw [← List.append_assoc]
      exact .answer ih hserve
  | call event hrun hrest hcall ih =>
      rw [← List.append_assoc]
      exact .call event ih hrest hcall

/-! ## Coming to rest -/

/-- Settling is a run of answers that ends at rest. -/
theorem settle?_runs (h : s.settle? terms around turns world = some (t, w)) :
    ∃ log, Runs terms around s world log t w ∧ calls log = [] ∧ t.AtRest terms := by
  induction turns generalizing s world with
  | zero =>
      rw [settle?] at h
      split at h
      · rename_i hserve
        cases h
        exact ⟨[], .start, rfl, serve_eq_none_iff.1 hserve⟩
      · cases h
  | succ turns ih =>
      rw [settle?] at h
      split at h
      · rename_i hserve
        cases h
        exact ⟨[], .start, rfl, serve_eq_none_iff.1 hserve⟩
      · rename_i event world' hserve
        obtain ⟨log, hrun, hcalls, hrest⟩ := ih h
        refine ⟨[(s.request terms, event)] ++ log, ?_, ?_, hrest⟩
        · exact .append (.answer .start hserve) hrun
        · simp [hcalls, (awaits_of_serve hserve).2]

/-- A session at rest settles at once. -/
theorem settle?_of_atRest (h : s.AtRest terms) :
    s.settle? terms around turns world = some (s, world) := by
  have hserve : (s.request terms).serve around world = none := serve_eq_none_iff.2 h
  unfold settle?
  simp [hserve]

/-- Before a run of answers the session settles as after it, with more turns. -/
theorem Runs.settle?_eq (h : Runs terms around s world log t w) (hcalls : calls log = []) :
    ∃ more, ∀ turns, s.settle? terms around (turns + more) world =
      t.settle? terms around turns w := by
  induction h with
  | start => exact ⟨0, fun _ => rfl⟩
  | @answer log t w event w' _ hserve ih =>
      -- The answer comes last in the run, so it takes the first of the turns that are left over.
      rw [calls_append, List.append_eq_nil_iff] at hcalls
      obtain ⟨more, hmore⟩ := ih hcalls.1
      refine ⟨more + 1, fun turns => ?_⟩
      have hstep : t.settle? terms around (turns + 1) w =
          (t.act terms around w' event).1.settle? terms around turns
            (t.act terms around w' event).2 := by
        rw [settle?, hserve]
      rw [← hstep, ← hmore (turns + 1)]
      congr 1
      omega
  | call event _ _ hcall =>
      simp [hcall] at hcalls

/-- A session at rest takes a call and comes to rest again. -/
theorem receive?_runs (hrest : s.AtRest terms) (hcall : event.isCall = true)
    (h : s.receive? terms around allowed world event = some (t, w)) :
    ∃ log, Runs terms around s world log t w ∧ calls log = [event] ∧ t.AtRest terms := by
  have hsettle : (s.act terms around world event).1.settle? terms around
      (allowed (s.act terms around world event).1) (s.act terms around world event).2 =
        some (t, w) := h
  obtain ⟨log, hrun, hcalls, hrest'⟩ := settle?_runs hsettle
  refine ⟨[(s.request terms, event)] ++ log, ?_, ?_, hrest'⟩
  · exact .append (.call event .start hrest hcall) hrun
  · simp [hcalls, hcall]

/-- Any calls in any order are a run with exactly these calls. -/
theorem receiveAll?_runs {events : List Event} (hrest : s.AtRest terms)
    (hevents : ∀ event ∈ events, event.isCall = true)
    (h : s.receiveAll? terms around allowed world events = some (t, w)) :
    ∃ log, Runs terms around s world log t w ∧ calls log = events ∧ t.AtRest terms := by
  induction events generalizing s world with
  | nil =>
      cases h
      exact ⟨[], .start, rfl, hrest⟩
  | cons event events ih =>
      simp only [receiveAll?, Option.bind_eq_some_iff] at h
      obtain ⟨⟨s', world'⟩, hfirst, hlater⟩ := h
      obtain ⟨log, hrun, hcalls, hrest'⟩ := receive?_runs hrest (hevents event (by simp)) hfirst
      obtain ⟨more, hmore, hcalls', hrest''⟩ :=
        ih hrest' (fun event hmem => hevents event (by simp [hmem])) hlater
      exact ⟨log ++ more, hrun.append hmore, by simp [hcalls, hcalls'], hrest''⟩

/-! ## Sessions that are over -/

/-- A session that is over takes a call without moving, and its surroundings notice nothing. -/
theorem receive?_of_done (h : s.phase = .done) :
    s.receive? terms around allowed world event = some (s, world) := by
  simp only [receive?, act, step_of_isDone (show s.isDone = true by simp [isDone, h])]
  exact settle?_of_atRest (atRest_of_done h)

/-- A session that is over takes any calls without moving. -/
theorem receiveAll?_of_done {events : List Event} (h : s.phase = .done) :
    s.receiveAll? terms around allowed world events = some (s, world) := by
  induction events with
  | nil => rfl
  | cons event events ih => simp [receiveAll?, receive?_of_done h, ih]

/-- A whole call takes the scanner's messages one by one, and then the end of the stream. A session
that is over before does not notice the rest. -/
theorem drive?_eq_receiveAll? (items : List (Except Status ServerMessage)) :
    s.drive? terms around allowed world items =
      s.receiveAll? terms around allowed world (items.map Event.ofItem ++ [.closed]) := by
  induction items generalizing s world with
  | nil =>
      by_cases hdone : s.phase = .done
      · simp [drive?, isDone, hdone, receiveAll?_of_done]
      · simp only [drive?, isDone, List.map_nil, List.nil_append, receiveAll?]
        cases s.receive? terms around allowed world .closed <;> simp [hdone]
  | cons item items ih =>
      by_cases hdone : s.phase = .done
      · simp [drive?, isDone, hdone, receiveAll?_of_done]
      · simp [drive?, isDone, hdone, receiveAll?, ih]

/-- A whole call is a run with the scanner's messages and the end of the stream as its calls. -/
theorem drive?_runs {items : List (Except Status ServerMessage)} (hrest : s.AtRest terms)
    (h : s.drive? terms around allowed world items = some (t, w)) :
    ∃ log, Runs terms around s world log t w ∧ calls log = items.map Event.ofItem ++ [.closed] ∧
      t.AtRest terms := by
  rw [drive?_eq_receiveAll?] at h
  refine receiveAll?_runs hrest ?_ h
  intro event hmem
  simp only [List.mem_append, List.mem_map, List.mem_singleton] at hmem
  obtain ⟨item, -, rfl⟩ | rfl := hmem
  · cases item <;> rfl
  · rfl

end MalwareScan.Session
