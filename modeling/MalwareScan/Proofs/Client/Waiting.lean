import MalwareScan.Proofs.Client.Answers

/-!
# Waiting for the scans in flight

Whoever waits for the scans registers, looks at the count, and parks unless it is zero. A scan that
makes it zero notifies those who are registered, but a step later, and in between other scans may be
counted. That no notification is missed rests on the order of the first two steps: whoever parks was
registered already when it saw that a scan was in flight.

A `Vigil` is any number of scans and one who waits for them, with their steps in any order. The
main theorem, `no_wakeup_is_lost`, says what holds in each of its states. Every history of a
client is one of a vigil (`exists_keeps`), so that it holds of clients, too.
-/

namespace MalwareScan

/-- The scan was the last one to leave, and has not notified anybody yet. -/
def ScanStage.isNotifying : ScanStage → Bool
  | notifying _ => true
  | _ => false

/-- A notification reaches whoever is registered, and leaves it registered. -/
theorem ActiveScans.notify_of_registered {scans : ActiveScans} (h : scans.registration ≠ none) :
    scans.notify.isNotified = true ∧ scans.notify.registration ≠ none := by
  obtain ⟨notified, hnotified⟩ := Option.ne_none_iff_exists'.1 h
  rw [isNotified, notify, hnotified]
  exact ⟨rfl, nofun⟩

/-- The scans on a client, and the one who waits for them: at first it closes the client. -/
structure Vigil where
  client : ClientState := {}
  scans : List ScanStage := []
  waiter : CloseStage := .start

namespace Vigil

/-- The vigil after an event of the scan `i`, which has the given options and length. -/
def moveScan (v : Vigil) (i : Nat) (stage : ScanStage) (options : ScanOptions) (length : UInt64)
    (event : ScanEvent) : Vigil :=
  { v with
    client := (stage.step options length v.client event).1
    scans := v.scans.set i (stage.step options length v.client event).2 }

/-- The vigil after an event of the one who waits. -/
def moveWaiter (v : Vigil) (event : CloseEvent) : Vigil :=
  { v with
    client := (v.waiter.step v.client event).1
    waiter := (v.waiter.step v.client event).2 }

/-- One step: a scan comes, which is to look at the client or was let in before; or one of those
that are there has an event; or the one who waits has one. -/
inductive Step (v : Vigil) : Vigil → Prop where
  | comes (stage : ScanStage) (hstage : stage = .start ∨ stage = .accepted) :
      Step v { v with scans := v.scans ++ [stage] }
  | scan {i : Nat} (stage : ScanStage) (options : ScanOptions) (length : UInt64)
      (event : ScanEvent) (hscan : v.scans[i]? = some stage) :
      Step v (v.moveScan i stage options length event)
  | waiter (event : CloseEvent) : Step v (v.moveWaiter event)

/-- The vigil can come of `start` by steps in any order. -/
inductive Reaches (start : Vigil) : Vigil → Prop where
  | start : Reaches start start
  | step {v next : Vigil} (h : Reaches start v) (hstep : Step v next) : Reaches start next

variable {client : ClientState} {v next : Vigil}

/-! ## What a step does to the count -/

/-- What a scan does to the count and to those who are registered: nothing, and it is about to
notify only if it was before; or it is counted; or it leaves, and will notify if it was the last
one; or it notifies. -/
inductive Affects (before : ActiveScans) (stage : ScanStage) : ActiveScans → ScanStage → Prop where
  | apart {next : ScanStage} (hnotifying : next.isNotifying = stage.isNotifying) :
      Affects before stage before next
  | enters {next : ScanStage} : Affects before stage before.enter next
  | leaves {next : ScanStage} (hactive : stage.isActive = true)
      (hnotifying : next.isNotifying = before.leave.2) : Affects before stage before.leave.1 next
  | notifies {next : ScanStage} : Affects before stage before.notify next

/-- Every step of a scan does one of these. -/
theorem affects_step (client : ClientState) (options : ScanOptions) (length : UInt64)
    (stage : ScanStage) (event : ScanEvent) :
    Affects client.scans stage (stage.step options length client event).1.scans
      (stage.step options length client event).2 := by
  cases stage <;> cases event <;> simp only [ScanStage.step]
  case start.next => split <;> exact .apart rfl
  case accepted.next => exact .enters
  case scanning.next => cases client.shutdown <;> exact .apart rfl
  case leaving.next outcome =>
    have hlast (last : Bool) :
        (if last then ScanStage.notifying outcome else .finished outcome).isNotifying = last := by
      cases last <;> rfl
    exact .leaves rfl (hlast _)
  case notifying.next => exact .notifies
  all_goals exact .apart rfl

/-- Where the one who waits stands: once it looks at the count it is registered; and if it is parked
without a notification while the count is zero, then one is due. -/
structure Watches (scans : ActiveScans) (waiter : CloseStage) (due : Prop) : Prop where
  registered : waiter = .looking ∨ waiter = .waiting → scans.registration ≠ none
  due : waiter = .waiting → scans.isNotified = false → scans.count = 0 → due

/-- Nothing is asked of the one who waits unless it looks at the count or is parked. -/
theorem Watches.elsewhere {scans : ActiveScans} {waiter : CloseStage} {due : Prop}
    (h : waiter ≠ .looking ∧ waiter ≠ .waiting) : Watches scans waiter due where
  registered hwaiter := (hwaiter.elim h.1 h.2).elim
  due hparked := absurd hparked h.2

/-- The steps of the one who waits keep to that: it parks only when it has seen a scan in flight. -/
theorem Watches.step {due : Prop} {waiter : CloseStage} (h : Watches client.scans waiter due)
    (event : CloseEvent) :
    Watches (waiter.step client event).1.scans (waiter.step client event).2 due := by
  cases waiter <;> cases event <;> simp only [CloseStage.step]
  case start.next => cases client.closed <;> exact .elsewhere (by simp)
  case registering.next => exact ⟨fun _ => by simp [ActiveScans.register], by simp⟩
  case looking.next =>
    cases hidle : client.scans.isIdle with
    | true => exact .elsewhere (by simp)
    | false =>
        -- It parks, and the count is not zero now.
        refine ⟨fun _ => h.registered (.inl rfl), fun _ _ hzero => ?_⟩
        have hcount : client.scans.count = 0 := hzero
        rw [ActiveScans.isIdle, hcount] at hidle
        cases hidle
  case waiting.next =>
    cases client.scans.isNotified with
    | true => exact .elsewhere (by simp)
    | false => exact h
  case looking.graceOver => exact h
  all_goals exact .elsewhere (by simp)

/-! ## What holds in every state -/

/-- What holds in every state of a vigil. -/
structure Sound (v : Vigil) : Prop where
  count : v.client.scans.count = v.scans.countP (·.isActive)
  isOpen : v.waiter = .start → v.client.closed = false
  watches : Watches v.client.scans v.waiter (∃ stage ∈ v.scans, stage.isNotifying = true)

/-- An active scan is counted. -/
theorem Sound.count_pos (h : v.Sound) {i : Nat} {stage : ScanStage}
    (hscan : v.scans[i]? = some stage)
    (hactive : stage.isActive = true) : 0 < v.client.scans.count := by
  rw [h.count]
  exact List.countP_pos_iff.2 ⟨stage, List.mem_of_getElem? hscan, hactive⟩

/-- The steps of a scan keep to that. -/
theorem Sound.moveScan (h : v.Sound) {i : Nat} {stage : ScanStage}
    (hscan : v.scans[i]? = some stage)
    (options : ScanOptions) (length : UInt64) (event : ScanEvent) :
    (v.moveScan i stage options length event).Sound where
  count := by
    have hset := Places.countP_set_add (stage.step options length v.client event).2 hscan
        (·.isActive)
    rw [← h.count] at hset
    exact Nat.add_right_cancel
      ((History.step_count stage event (h.count_pos hscan)).trans hset.symm)
  isOpen hstart := by
    show (stage.step options length v.client event).1.closed = false
    rw [(History.step_closed stage event).1]
    exact h.isOpen hstart
  watches := by
    have haffects := affects_step v.client options length stage event
    unfold Vigil.moveScan
    generalize (stage.step options length v.client event).1 = client,
      (stage.step options length v.client event).2 = next at haffects ⊢
    obtain ⟨closed, shutdown, scans, opens⟩ := client
    cases haffects with
    | apart hnotifying =>
        refine ⟨h.watches.registered, fun hparked hunaware hzero => ?_⟩
        -- The scan that is due to notify is still there.
        refine Places.exists_mem_set hscan (fun hbefore => ?_)
          (h.watches.due hparked hunaware hzero)
        rw [hnotifying, hbefore]
    | enters => exact ⟨h.watches.registered, fun _ _ hzero => absurd hzero (Nat.succ_ne_zero _)⟩
    | leaves hactive hnotifying =>
        refine ⟨h.watches.registered, fun _ _ hzero => ?_⟩
        -- The count has become zero, so this was the last scan, and it will notify.
        have hlast : v.client.scans.count = 1 := by
          have hcount : v.client.scans.count - 1 = 0 := hzero
          have hcounted := h.count_pos hscan hactive
          omega
        refine ⟨next, List.mem_set (List.getElem?_eq_some_iff.1 hscan).1 next, ?_⟩
        rw [hnotifying]
        exact beq_iff_eq.2 hlast
    | notifies =>
        have hregistered (hwaiter : v.waiter = .looking ∨ v.waiter = .waiting) :=
          ActiveScans.notify_of_registered (h.watches.registered hwaiter)
        refine ⟨fun hwaiter => (hregistered hwaiter).2, fun hparked hunaware _ => ?_⟩
        -- Whoever is parked is registered, so it has just been notified.
        cases (hregistered (.inr hparked)).1.symm.trans hunaware

/-- The steps of the one who waits keep to that, too. -/
theorem Sound.moveWaiter (h : v.Sound) (event : CloseEvent) : (v.moveWaiter event).Sound where
  count := (History.close_step v.waiter event).1.trans h.count
  isOpen hstart := by
    obtain ⟨hbefore, hsame⟩ := History.close_step_of_start hstart
    show (v.waiter.step v.client event).1.closed = false
    rw [hsame]
    exact h.isOpen hbefore
  watches := h.watches.step event

/-- Every step keeps a vigil sound. -/
theorem Step.sound (h : v.Sound) (hstep : Step v next) : next.Sound := by
  cases hstep with
  | comes stage hstage =>
      refine ⟨?_, h.isOpen, ⟨h.watches.registered, fun hparked hunaware hzero => ?_⟩⟩
      · have hidle : stage.isActive = false := by
          rcases hstage with rfl | rfl <;> rfl
        show v.client.scans.count = (v.scans ++ [stage]).countP (·.isActive)
        rw [List.countP_append, List.countP_singleton, hidle, h.count]
        rfl
      · obtain ⟨other, hmem, hother⟩ := h.watches.due hparked hunaware hzero
        exact ⟨other, List.mem_append_left _ hmem, hother⟩
  | scan stage options length event hscan => exact h.moveScan hscan options length event
  | waiter event => exact h.moveWaiter event

/-- What holds in every state of a vigil. -/
theorem sound (h : Reaches {} v) : v.Sound := by
  induction h with
  | start => exact ⟨rfl, fun _ => rfl, .elsewhere (by simp)⟩
  | step _ hstep ih => exact hstep.sound ih

/-! ## Returning in time -/

/-- The one who waits has looked at the count and seen that it is zero, before it returned. -/
structure HasSeenNone (v : Vigil) (seen : Vigil) : Prop where
  reached : Reaches {} seen
  looking : seen.waiter = .looking
  none : seen.client.scans.count = 0
  later : Reaches (seen.moveWaiter .next) v

/-- Nobody returns in time who has not. -/
theorem exists_seen_none (h : Reaches {} v) (hfinished : v.waiter = .finished true) :
    ∃ seen, HasSeenNone v seen := by
  induction h with
  | start => cases hfinished
  | @step v next hpast hstep ih =>
      have hkept (hbefore : v.waiter = .finished true) : ∃ seen, HasSeenNone next seen := by
        obtain ⟨seen, hseen⟩ := ih hbefore
        exact ⟨seen, { hseen with later := hseen.later.step hstep }⟩
      cases hstep with
      | comes | scan => exact hkept hfinished
      | waiter event =>
          rcases History.close_step_of_finished hfinished with
            ⟨hover, -⟩ | ⟨hstart, -, hclosed⟩ | ⟨hlooking, rfl, hidle⟩
          · exact hkept hover
          · rw [(sound hpast).isOpen hstart] at hclosed
            cases hclosed
          · exact ⟨v, hpast, hlooking, eq_of_beq hidle, .start⟩

end Vigil

/-! ## Clients -/

namespace History

variable {timeout : Duration} {w next : World} {client : ClientState} {closed : Bool}
  {closings : List Closing} {waiter : CloseStage}

/-- Once the client is closed, one of the closings is the one who waits, and the others are idle.
Before that none has had a step. -/
def Waits (closed : Bool) (closings : List Closing) (waiter : CloseStage) : Prop :=
  (closed = false ∧ waiter = .start ∧ ∀ closing ∈ closings, closing = {}) ∨
    (closed = true ∧ ∃ (first : Nat) (closing : Closing), closings[first]? = some closing ∧
      closing.stage = waiter ∧
      ∀ (j : Nat) other, closings[j]? = some other → j ≠ first → other.IsIdle)

/-- The vigil stands where the world does. -/
structure World.Keeps (w : World) (v : Vigil) : Prop where
  reached : Vigil.Reaches {} v
  client : v.client = w.client
  scans : v.scans = w.scans.map (·.stage)
  waits : Waits w.client.closed w.closings v.waiter

/-- A new closing is not the one who waits. -/
theorem Waits.begin (h : Waits closed closings waiter) :
    Waits closed (closings ++ [({} : Closing)]) waiter := by
  rcases h with ⟨hopen, hstart, hnew⟩ | ⟨hclosed, first, closing, hfirst, hstage, hidle⟩
  · refine .inl ⟨hopen, hstart, fun closing hmem => ?_⟩
    exact (List.mem_append.1 hmem).elim (hnew closing) List.mem_singleton.1
  · have hlt := (List.getElem?_eq_some_iff.1 hfirst).1
    refine .inr ⟨hclosed, first, closing, ?_, hstage, fun j other hother hne => ?_⟩
    · rwa [List.getElem?_append_left hlt]
    · rcases Places.getElem?_concat_cases hother with hold | rfl
      · exact hidle j other hold hne
      · exact ⟨rfl, .inl rfl⟩

/-- A step of a closing is one of the one who waits, or it leaves the client as it is. -/
theorem Waits.act {j : Nat} {closing : Closing} (h : Waits client.closed closings waiter)
    (hclosing : closings[j]? = some closing) (event : CloseEvent) :
    ((closing.act client event).1 = (waiter.step client event).1 ∧
      Waits (closing.act client event).1.closed (closings.set j (closing.act client event).2)
        (waiter.step client event).2) ∨
    ((closing.act client event).1 = client ∧
      Waits client.closed (closings.set j (closing.act client event).2) waiter) := by
  have hj := (List.getElem?_eq_some_iff.1 hclosing).1
  rcases h with ⟨hopen, rfl, hnew⟩ | ⟨hclosed, first, waiting, hfirst, rfl, hidle⟩
  · -- The client is open, so the first step of a closing makes it the one who waits.
    obtain rfl := hnew closing (List.mem_of_getElem? hclosing)
    cases event with
    | next =>
        refine .inl ⟨rfl, .inr ⟨rfl, j, _, List.getElem?_set_self hj, rfl, ?_⟩⟩
        intro k other hother hne
        rw [List.getElem?_set_ne (Ne.symm hne)] at hother
        obtain rfl := hnew other (List.mem_of_getElem? hother)
        exact ⟨rfl, .inl rfl⟩
    | graceOver =>
        refine .inr ⟨rfl, .inl ⟨hopen, rfl, fun other hother => ?_⟩⟩
        rcases List.mem_or_eq_of_mem_set hother with hold | rfl
        · exact hnew other hold
        · simp [Closing.act, CloseStage.step]
  · by_cases hsame : j = first
    · subst hsame
      obtain rfl := Option.some.inj (hfirst.symm.trans hclosing)
      have hstays := (close_step waiting.stage event).2.1 hclosed
      refine .inl ⟨rfl, .inr ⟨hstays, j, _, List.getElem?_set_self hj, rfl, ?_⟩⟩
      intro k other hother hne
      rw [List.getElem?_set_ne (Ne.symm hne)] at hother
      exact hidle k other hother hne
    · obtain ⟨hclient, hstays⟩ := (hidle j closing hclosing hsame).act event hclosed
      refine .inr ⟨hclient, .inr ⟨hclosed, first, waiting, ?_, rfl, fun k other hother hne => ?_⟩⟩
      · rwa [List.getElem?_set_ne hsame]
      · rcases Places.getElem?_set_cases hother with ⟨-, rfl⟩ | ⟨-, hold⟩
        · exact hstays
        · exact hidle k other hold hne

/-- A step of a scan is one of the vigil. -/
theorem World.Keeps.scan {v : Vigil} (h : w.Keeps v) {i : Nat} {scan moved : Scan}
    {after : ClientState} (hscan : w.scans[i]? = some scan)
    (hmoves : scan.Moves timeout w.client after moved) :
    ∃ later, World.Keeps { w with client := after, scans := w.scans.set i moved } later := by
  have hstage : v.scans[i]? = some scan.stage := by
    rw [h.scans, List.getElem?_map, hscan]
    rfl
  have hact (event : ScanEvent) {moved : Scan}
      (hmoved : moved.stage = (scan.act w.client event).2.stage) : ∃ later, World.Keeps
        { w with client := (scan.act w.client event).1, scans := w.scans.set i moved } later := by
    refine ⟨_, h.reached.step (.scan scan.stage scan.options scan.content.length event hstage),
      ?_, ?_, ?_⟩
    · show (scan.stage.step _ _ v.client event).1 = _
      rw [h.client]
      rfl
    · show v.scans.set i (scan.stage.step _ _ v.client event).2 = (w.scans.set i moved).map _
      rw [List.map_set, h.scans, h.client, hmoved]
      rfl
    · show Waits (scan.stage.step _ _ w.client event).1.closed w.closings v.waiter
      rw [(step_closed scan.stage event).1]
      exact h.waits
  cases hmoves with
  | checked | next | opened | notOpened | completed | dropped => exact hact _ rfl
  | called =>
      refine ⟨v, h.reached, h.client, ?_, h.waits⟩
      obtain ⟨hi, hself⟩ := List.getElem?_eq_some_iff.1 hstage
      show v.scans = (w.scans.set i { scan with answer := _ }).map _
      rw [List.map_set, ← h.scans, ← hself, List.set_getElem_self]

/-- Every history of a client is one of a vigil. -/
theorem exists_keeps (h : History timeout {} w) : ∃ v, w.Keeps v := by
  induction h with
  | start =>
      exact ⟨{}, .start, rfl, rfl, .inl ⟨rfl, rfl, fun _ hmem => absurd hmem List.not_mem_nil⟩⟩
  | step _ hstep ih =>
      obtain ⟨v, hv⟩ := ih
      cases hstep with
      | beginScan content options =>
          refine ⟨_, hv.reached.step (.comes .start (.inl rfl)), hv.client, ?_, hv.waits⟩
          rw [hv.scans, List.map_append]
          rfl
      | beginClosing => exact ⟨v, hv.reached, hv.client, hv.scans, hv.waits.begin⟩
      | scan hscan hmoves => exact hv.scan hscan hmoves
      | close closing event hclosing =>
          rcases hv.waits.act hclosing event with ⟨hclient, hwaits⟩ | ⟨hclient, hwaits⟩
          · refine ⟨_, hv.reached.step (.waiter event), ?_, hv.scans, ?_⟩
            · show (v.waiter.step v.client event).1 = _
              rw [hv.client, hclient]
            · show Waits _ _ (v.waiter.step v.client event).2
              rw [hv.client]
              exact hwaits
          · refine ⟨v, hv.reached, hv.client.trans hclient.symm, hv.scans, ?_⟩
            show Waits (closing.act _ event).1.closed _ v.waiter
            rw [hclient]
            exact hwaits

/-- In every history of a client, some scan is about to notify a closing that is parked without a
notification while the count is zero. -/
theorem exists_notifying (h : History timeout {} w) {closing : Closing}
    (hmem : closing ∈ w.closings)
    (hparked : closing.stage = .waiting) (hunaware : w.client.scans.isNotified = false)
    (hzero : w.client.scans.count = 0) : ∃ scan ∈ w.scans, scan.stage.isNotifying = true := by
  obtain ⟨v, hv⟩ := exists_keeps h
  have hwaiter : v.waiter = .waiting := by
    rcases hv.waits with ⟨-, -, hnew⟩ | ⟨-, first, waiting, hfirst, hstage, hidle⟩
    · rw [hnew closing hmem] at hparked
      cases hparked
    · obtain ⟨j, hj⟩ := List.mem_iff_getElem?.1 hmem
      by_cases hsame : j = first
      · subst hsame
        obtain rfl := Option.some.inj (hfirst.symm.trans hj)
        rw [← hstage, hparked]
      · -- Only the one who waits is parked.
        rcases (hidle j closing hj hsame).stage with hother | hother
        all_goals
          rw [hother] at hparked
          cases hparked
  rw [← hv.client] at hunaware hzero
  obtain ⟨stage, hstage, hnotifying⟩ :=
    (Vigil.sound hv.reached).watches.due hwaiter hunaware hzero
  rw [hv.scans] at hstage
  obtain ⟨scan, hscan, rfl⟩ := List.mem_map.1 hstage
  exact ⟨scan, hscan, hnotifying⟩

end History

/-! ## The main theorem -/

namespace Vigil

/-- In every state that a vigil can come to, in any order of its steps:

* the count is the number of scans that were counted and have not left, and a scan that leaves makes
  it one less, so that it is never zero then;
* the one who waits returns in time only after it has seen that the count is zero;
* if it is parked without a notification while the count is zero, then a scan has left and not
  notified yet, and when that scan notifies, the one who waits is notified.

Every history of a client is one of a vigil. So if a closing is parked without a notification while
the count is zero, then one of the scans of the client is about to notify it. -/
theorem no_wakeup_is_lost :
    (∀ v, Reaches {} v →
      v.client.scans.count = v.scans.countP (·.isActive) ∧
      (∀ (i : Nat) outcome options length, v.scans[i]? = some (.leaving outcome) →
        (v.moveScan i (.leaving outcome) options length .next).client.scans.count + 1 =
          v.client.scans.count) ∧
      (v.waiter = .finished true → ∃ seen, HasSeenNone v seen) ∧
      (v.waiter = .waiting → v.client.scans.isNotified = false → v.client.scans.count = 0 →
        ∃ (i : Nat) (outcome : Outcome String), v.scans[i]? = some (.notifying outcome) ∧
          ∀ options length,
            (v.moveScan i (.notifying outcome) options length .next).client.scans.isNotified =
              true)) ∧
    (∀ timeout w, History timeout {} w →
      (∃ v, w.Keeps v) ∧
      ∀ closing ∈ w.closings, closing.stage = .waiting → w.client.scans.isNotified = false →
        w.client.scans.count = 0 → ∃ scan ∈ w.scans, scan.stage.isNotifying = true) := by
  refine ⟨fun v h => ?_, fun timeout w h => ⟨History.exists_keeps h, ?_⟩⟩
  · have hsound := sound h
    refine ⟨hsound.count, fun i outcome options length hscan => ?_, exists_seen_none h,
      fun hparked hunaware hzero => ?_⟩
    · exact Nat.sub_add_cancel (hsound.count_pos hscan rfl)
    · obtain ⟨stage, hmem, hnotifying⟩ := hsound.watches.due hparked hunaware hzero
      obtain ⟨i, hscan⟩ := List.mem_iff_getElem?.1 hmem
      obtain ⟨outcome, rfl⟩ : ∃ outcome, stage = .notifying outcome := by
        cases stage <;> first | exact ⟨_, rfl⟩ | cases hnotifying
      have hregistered := hsound.watches.registered (.inr hparked)
      exact ⟨i, outcome, hscan, fun _ _ => (ActiveScans.notify_of_registered hregistered).1⟩
  · intro closing hmem hparked hunaware hzero
    exact History.exists_notifying h hmem hparked hunaware hzero

/-- One scan is counted and in flight when the wait begins, and it is about to leave when the one
who waits is parked. -/
def leavingVigil : Vigil where
  client := { closed := true, shutdown := true, scans := ⟨1, some false⟩ }
  scans := [.leaving ScanStage.abandoned]
  waiter := .waiting

/-- It has left, and not notified yet. -/
def leftVigil : Vigil :=
  leavingVigil.moveScan 0 (.leaving ScanStage.abandoned) {} 0 .next

/-- It notifies, and the one who waits looks at the count again. -/
def returnedVigil : Vigil :=
  (((leftVigil.moveScan 0 (.notifying ScanStage.abandoned) {} 0 .next).moveWaiter .next).moveWaiter
    .next).moveWaiter .next

/-- A client is closed while a scan is in flight, and the scan leaves when the closing is parked. -/
theorem parked : History ⟨0⟩ {} ⟨{ closed := true, shutdown := true, scans := ⟨0, some false⟩ },
    [{ History.sampleScan (.notifying ScanStage.abandoned) 0 none with dropped := true }],
    [⟨.waiting, true⟩]⟩ := by
  have hbegun : History ⟨0⟩ {} ⟨{}, [{ content := History.sampleContent, options := {} }], []⟩ :=
    .step .start (.beginScan History.sampleContent {})
  have haccepted : History ⟨0⟩ {} ⟨{}, [History.sampleScan .accepted 0 none], []⟩ :=
    hbegun.step (.scan (i := 0) rfl (.checked rfl))
  have hcounted : History ⟨0⟩ {}
      ⟨{ scans := ⟨1, none⟩ }, [History.sampleScan .counted 0 none], []⟩ :=
    haccepted.step (.scan (i := 0) rfl (.next nofun))
  have hclosing := (hcounted.step .beginClosing).step (.close (j := 0) {} .next rfl)
  have hannounced := hclosing.step (.close (j := 0) ⟨.announcing, true⟩ .next rfl)
  have hlooking := hannounced.step (.close (j := 0) ⟨.registering, true⟩ .next rfl)
  have hparked := hlooking.step (.close (j := 0) ⟨.looking, true⟩ .next rfl)
  have hdropped := hparked.step (.scan (i := 0) rfl (.dropped rfl))
  exact hdropped.step (.scan (i := 0) rfl (.next nofun))

/-- The count becomes zero when the scan leaves, the wakeup that is due then is not lost, and the
one who waits returns after it has seen that the count is zero. -/
theorem no_wakeup_is_lost_parked :
    leftVigil.client.scans.count + 1 = leavingVigil.client.scans.count ∧
      (∃ (i : Nat) (outcome : Outcome String), leftVigil.scans[i]? = some (.notifying outcome) ∧
        (leftVigil.moveScan i (.notifying outcome) {} 0 .next).client.scans.isNotified = true) ∧
      (∃ seen, HasSeenNone returnedVigil seen) ∧
      ∃ w, History ⟨0⟩ {} w ∧ w.closings.map (·.stage) = [.waiting] ∧
        w.client.scans.count = 0 ∧ ∃ scan ∈ w.scans, scan.stage.isNotifying = true := by
  have hcome : Reaches {} { scans := [.accepted] } :=
    Reaches.start.step (.comes .accepted (.inr rfl))
  have hcounted : Reaches {} { client := { scans := ⟨1, none⟩ }, scans := [.counted] } :=
    hcome.step (.scan (i := 0) .accepted {} 0 .next rfl)
  have hlooking : Reaches {}
      { client := { closed := true, shutdown := true, scans := ⟨1, some false⟩ }
        scans := [.counted], waiter := .looking } :=
    ((hcounted.step (.waiter .next)).step (.waiter .next)).step (.waiter .next)
  have hleaving : Reaches {} leavingVigil :=
    (hlooking.step (.waiter .next)).step (.scan (i := 0) .counted {} 0 .dropped rfl)
  have hleft : Reaches {} leftVigil :=
    hleaving.step (.scan (i := 0) (.leaving ScanStage.abandoned) {} 0 .next rfl)
  have hnotified : Reaches {} (leftVigil.moveScan 0 (.notifying ScanStage.abandoned) {} 0 .next) :=
    hleft.step (.scan (i := 0) (.notifying ScanStage.abandoned) {} 0 .next rfl)
  have hreturned : Reaches {} returnedVigil :=
    ((hnotified.step (.waiter .next)).step (.waiter .next)).step (.waiter .next)
  obtain ⟨hvigils, hclients⟩ := no_wakeup_is_lost
  obtain ⟨-, hleaves, -, -⟩ := hvigils leavingVigil hleaving
  obtain ⟨-, -, -, hwoken⟩ := hvigils leftVigil hleft
  obtain ⟨-, -, hseen, -⟩ := hvigils returnedVigil hreturned
  obtain ⟨i, outcome, hscan, hwakes⟩ := hwoken rfl rfl rfl
  obtain ⟨-, hnotifies⟩ := hclients ⟨0⟩ _ parked
  exact ⟨hleaves 0 _ {} 0 rfl, ⟨i, outcome, hscan, hwakes {} 0⟩, hseen rfl, _, parked, rfl, rfl,
    hnotifies ⟨.waiting, true⟩ (by simp) rfl rfl rfl⟩

end Vigil

end MalwareScan
