import MalwareScan.Proofs.Session.Runs

/-!
# The budget of a session

A session may wait for room until its time is up, so how many turns it takes depends on its
surroundings. Where these keep time, each answer leaves it fewer turns than before
(`turnsLeft_lt`): a range takes at most three of them, and each wait in vain takes `readyInterval`
of the time that is left. The budget allows that many turns. With it a session comes to rest after
every call, and a whole call is a run (`drive_runs`).
-/

namespace MalwareScan

open Wire (ByteRange ServerMessage Status)

namespace Surroundings

/-- The surroundings have a clock that shows the nanoseconds from the start of the session. It never
goes back, and a wait in vain takes `readyInterval` or more and tells the time. -/
structure KeepsTime {σ : Type} (around : Surroundings σ) (clock : σ → Nat) : Prop where
  read : ∀ world offset capacity, clock world ≤ clock (around.read world offset capacity).2
  send : ∀ world m, clock world ≤ clock (around.send world m).2
  signal : ∀ world signal, clock world ≤ clock (around.signal world signal)
  room : ∀ world, clock world ≤ clock (around.waitForRoom world).2
  noRoom : ∀ world elapsed, (around.waitForRoom world).1 = some elapsed →
    clock world + readyInterval.nanos ≤ elapsed.nanos ∧
      elapsed.nanos ≤ clock (around.waitForRoom world).2

end Surroundings

namespace Task

/-- How many turns a task takes if no wait is in vain: a range takes a read, a wait and a message.
-/
def turns : Task → Nat
  | idle => 0
  | read _ later => 3 * later.length + 3
  | room _ _ later => 3 * later.length + 2
  | send _ _ later => 3 * later.length + 1

section

variable (range : ByteRange) (chunk : Bytes) (later : List ByteRange)

@[simp] theorem turns_idle : idle.turns = 0 := rfl
@[simp] theorem turns_read : (read range later).turns = 3 * later.length + 3 := rfl
@[simp] theorem turns_room : (room range chunk later).turns = 3 * later.length + 2 := rfl
@[simp] theorem turns_send : (send range chunk later).turns = 3 * later.length + 1 := rfl

end

@[simp] theorem turns_serve (ranges : List ByteRange) :
    (serve ranges).turns = 3 * ranges.length := by
  cases ranges with
  | nil => rfl
  | cons range later => simp [serve, Nat.mul_add]

end Task

namespace Session

/-- The time at the end of a wait in vain, counted from the start of the session. -/
def Turn.stalled? : Turn → Option Duration
  | (.room, .noRoom elapsed) => some elapsed
  | _ => none

variable {σ : Type} {terms : Terms} {around : Surroundings σ} {s : Session} {world w w' : σ}
  {event : Event} {now later : Nat} {elapsed : Duration}

/-- How many waits can be in vain from the time `now` on. -/
def stallsLeft (terms : Terms) (now : Nat) : Nat :=
  (terms.timeout.nanos - now) / readyInterval.nanos + 1

/-- How many turns a session can take from the time `now` on before it is at rest. -/
def turnsLeft (terms : Terms) (s : Session) (now : Nat) : Nat :=
  s.task.turns + stallsLeft terms now

/-- As time goes by, no more waits can be in vain. -/
theorem stallsLeft_mono (terms : Terms) (h : now ≤ later) :
    stallsLeft terms later ≤ stallsLeft terms now :=
  Nat.add_le_add_right (Nat.div_le_div_right (Nat.sub_le_sub_left h _)) 1

/-- After a wait in vain that was in time, one less can follow. -/
theorem stallsLeft_lt (hintime : elapsed.nanos ≤ terms.timeout.nanos)
    (hwait : now + readyInterval.nanos ≤ elapsed.nanos) (hlater : elapsed.nanos ≤ later) :
    stallsLeft terms later < stallsLeft terms now := by
  have hinterval : 0 < readyInterval.nanos := by decide
  have hsub : terms.timeout.nanos - now =
      terms.timeout.nanos - (now + readyInterval.nanos) + readyInterval.nanos := by omega
  have hless : (terms.timeout.nanos - later) / readyInterval.nanos ≤
      (terms.timeout.nanos - (now + readyInterval.nanos)) / readyInterval.nanos :=
    Nat.div_le_div_right (by omega)
  unfold stallsLeft
  rw [hsub, Nat.add_div_right _ hinterval]
  omega

/-- The budget of a session allows it the turns that it can take. -/
theorem turnsLeft_le_budget (terms : Terms) (s : Session) (now : Nat) :
    turnsLeft terms s now ≤ budget terms s := by
  have hturns : s.task.turns ≤ 3 * pending s.task := by
    cases s.task <;> simp [pending] <;> omega
  have hstalls := stallsLeft_mono terms (Nat.zero_le now)
  unfold turnsLeft budget
  unfold stallsLeft at hstalls ⊢
  rw [Nat.sub_zero] at hstalls
  omega

/-- A session whose surroundings have an answer has a task. -/
theorem turns_pos_of_serve (hopen : s.phase ≠ .done)
    (hserve : (s.request terms).serve around w = some (event, w')) : 0 < s.task.turns := by
  cases htask : s.task with
  | idle =>
      rw [request_of_idle hopen htask] at hserve
      cases hserve
  | read | room | send => simp

section

variable {clock : σ → Nat} (hclock : around.KeepsTime clock)

include hclock

/-- Signals do not turn the clock back. -/
theorem clock_act (terms : Terms) (t : Session) (event : Event) (w : σ) :
    clock w ≤ clock (t.act terms around w event).2 := by
  have hsignals : ∀ signals, clock w ≤ clock (List.foldl around.signal w signals) := by
    intro signals
    induction signals generalizing w with
    | nil => exact Nat.le_refl _
    | cons signal signals ih => exact Nat.le_trans (hclock.signal w signal) (ih _)
  exact hsignals _

/-- Answers take their time. -/
theorem clock_serve {request : Request} (h : request.serve around w = some (event, w')) :
    clock w ≤ clock w' ∧ ∀ elapsed, Turn.stalled? (request, event) = some elapsed →
      clock w + readyInterval.nanos ≤ elapsed.nanos ∧ elapsed.nanos ≤ clock w' := by
  cases request with
  | message | nothing => cases h
  | read offset capacity =>
      simp only [Request.serve, Option.some.injEq, Prod.mk.injEq] at h
      obtain ⟨rfl, rfl⟩ := h
      refine ⟨hclock.read w offset capacity, fun elapsed hstalled => ?_⟩
      cases hstalled
  | room =>
      have hroom := hclock.room w
      have hnoRoom := hclock.noRoom w
      simp only [Request.serve] at h
      split at h
      all_goals
        rename_i hwait
        cases h
        rw [hwait] at hroom hnoRoom
        refine ⟨hroom, fun elapsed hstalled => ?_⟩
      · cases hstalled
      · exact hnoRoom _ hstalled
  | send m =>
      simp only [Request.serve, Option.some.injEq, Prod.mk.injEq] at h
      obtain ⟨rfl, rfl⟩ := h
      refine ⟨hclock.send w m, fun elapsed hstalled => ?_⟩
      split at hstalled <;> cases hstalled

/-- After an answer a session needs one turn less. -/
theorem turnsLeft_lt (hserve : (s.request terms).serve around w = some (event, w')) :
    turnsLeft terms (s.act terms around w' event).1 (clock (s.act terms around w' event).2) <
      turnsLeft terms s (clock w) := by
  obtain ⟨hawaits, hcall⟩ := awaits_of_serve hserve
  obtain ⟨hlater, hstalled⟩ := clock_serve hclock hserve
  have hact := clock_act hclock terms s event w'
  have hmove := step_moves hawaits
  have hrate := stallsLeft_mono terms (Nat.le_trans hlater hact)
  show turnsLeft terms (s.step terms event).1 _ < _
  generalize (s.step terms event).1 = t, (s.step terms event).2 = signals at hmove
  unfold turnsLeft
  cases hmove with
  | ignored _ hdone =>
      rw [request_of_done hdone] at hserve
      cases hserve
  | ends _ ending hopen _ hending =>
      have hbusy := turns_pos_of_serve hopen hserve
      simp only [finish, Task.turns_idle]
      omega
  | asked => cases hcall
  | read range later _ _ _ htask =>
      rw [htask, Task.turns_read, Task.turns_room]
      omega
  | room range chunk later _ htask =>
      rw [htask, Task.turns_room, Task.turns_send]
      omega
  | stalled range chunk later elapsed hopen htask hintime =>
      have hwait := hstalled elapsed (by rw [request_of_room hopen htask]; rfl)
      have hless := stallsLeft_lt hintime hwait.1 (Nat.le_trans hwait.2 hact)
      omega
  | sent range chunk later _ htask =>
      rw [htask, Task.turns_serve, Task.turns_send]
      omega
  | notSent range chunk later _ htask =>
      rw [htask, Task.turns_send, Task.turns_idle]
      omega

/-- A session comes to rest if it is allowed the turns that it can take. -/
theorem isSome_settle? {turns : Nat} (h : turnsLeft terms s (clock world) ≤ turns) :
    (s.settle? terms around turns world).isSome = true := by
  induction turns generalizing s world with
  | zero =>
      -- There is always a turn left for a wait in vain.
      exact absurd h (Nat.not_succ_le_zero _)
  | succ turns ih =>
      unfold settle?
      cases hserve : (s.request terms).serve around world with
      | none => rfl
      | some answer =>
          have hless := turnsLeft_lt hclock hserve
          exact ih (Nat.le_of_lt_succ (Nat.lt_of_lt_of_le hless h))

/-- Whatever calls come, a session answers all of them within its budget. -/
theorem isSome_receiveAll? (events : List Event) :
    (s.receiveAll? terms around (budget terms) world events).isSome = true := by
  induction events generalizing s world with
  | nil => rfl
  | cons event events ih =>
      have hfirst : (s.receive? terms around (budget terms) world event).isSome = true :=
        isSome_settle? hclock (turnsLeft_le_budget terms _ _)
      obtain ⟨⟨t, w⟩, hsome⟩ := Option.isSome_iff_exists.1 hfirst
      rw [receiveAll?, hsome, Option.bind_some]
      exact ih

/-- A whole call ends within the budget, at rest, and it is a run with the scanner's messages and
the end of the stream as its calls. -/
theorem drive_runs (hrest : s.AtRest terms) (items : List (Except Status ServerMessage)) :
    s.drive? terms around (budget terms) world items = some (s.drive terms around world items) ∧
      (s.drive terms around world items).1.AtRest terms ∧
      ∃ log, Runs terms around s world log (s.drive terms around world items).1
          (s.drive terms around world items).2 ∧
        calls log = items.map Event.ofItem ++ [.closed] := by
  have hsome : (s.drive? terms around (budget terms) world items).isSome = true := by
    rw [drive?_eq_receiveAll?]
    exact isSome_receiveAll? hclock _
  obtain ⟨⟨t, w⟩, hresult⟩ := Option.isSome_iff_exists.1 hsome
  have hdrive : s.drive terms around world items = (t, w) := by
    rw [drive, hresult, Option.getD_some]
  obtain ⟨log, hrun, hcalls, hrest'⟩ := drive?_runs hrest hresult
  rw [hdrive]
  exact ⟨hresult, hrest', log, hrun, hcalls⟩

end

end Session

end MalwareScan
