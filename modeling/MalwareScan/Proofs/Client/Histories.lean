import MalwareScan.Proofs.Client.Admission
import MalwareScan.Proofs.Client.Messages
import MalwareScan.Proofs.Lists.Places

/-!
# Histories of a client

Any number of scans and closings are under way on one client, and their steps come in any order.
Each of them is moved by `ScanStage.step` or `CloseStage.step`; in between, the calls of the scans
go on by themselves. `History` is what can come of this, over any content and any options and with
any answers of the scanner. A world of a history also remembers what no step reads: whether a scan
saw its client closed, how often it opened a call and what came of that, whether it was dropped,
and whether a closing changed the client.

What holds in every history is `World.Sound` (`sound`). A step of a scan keeps that scan sound and
moves the count with it, a step of a closing keeps all closings sound, and neither harms the
others.
-/

namespace MalwareScan

open Session (Turn)
open Wire (ClientMessage)

/-- The outcome of a scan that needs no more of its call. -/
def ScanStage.result? : ScanStage → Option (Outcome String)
  | leaving outcome | notifying outcome | finished outcome => some outcome
  | start | accepted | counted | opening | scanning => none

namespace History

/-- The call of a scan: the turns of its session, what its far side found, and where it stands. -/
structure ScanCall where
  log : List Turn := []
  found : Line.Found := {}
  line : Line

/-- A scan: what it was called with and where it stands, whether it saw the client closed, how many
calls it opened, how the last one was answered, and whether the scan was dropped before its end. -/
structure Scan where
  content : Content
  options : ScanOptions
  stage : ScanStage := .start
  sawClosed : Option Bool := none
  opens : Nat := 0
  answer : Option (Except Error ScanCall) := none
  dropped : Bool := false

/-- A closing: where it stands, and whether it changed the client. -/
structure Closing where
  stage : CloseStage := .start
  touched : Bool := false

/-- A client with its scans and closings, in the order in which they were called. -/
structure World where
  client : ClientState := {}
  scans : List Scan := []
  closings : List Closing := []

/-! ## Steps -/

/-- The client and a scan after an event of the scan. -/
def Scan.act (scan : Scan) (client : ClientState) (event : ScanEvent) : ClientState × Scan :=
  let (after, stage) := scan.stage.step scan.options scan.content.length client event
  (after, { scan with stage, opens := scan.opens + (after.opens - client.opens) })

/-- The client and a closing after an event of the closing. -/
def Closing.act (closing : Closing) (client : ClientState) (event : CloseEvent) :
    ClientState × Closing :=
  let (after, stage) := closing.stage.step client event
  (after, { stage, touched := closing.touched || decide (after ≠ client) })

/-- What may happen to a scan: it looks at the client and goes on, its call is opened over any
blank channel or is not opened, the call goes on in any way, the scan gets the outcome of a
session that is over, or it is dropped. -/
inductive Scan.Moves (timeout : Duration) (client : ClientState) (scan : Scan) :
    ClientState → Scan → Prop where
  | checked (hstart : scan.stage = .start) :
      Moves timeout client scan (scan.act client .next).1
        { (scan.act client .next).2 with sawClosed := some client.closed }
  | next (hstarted : scan.stage ≠ .start) :
      Moves timeout client scan (scan.act client .next).1 (scan.act client .next).2
  | opened (channel : Channel) (hopening : scan.stage = .opening) (hblank : channel.IsBlank) :
      Moves timeout client scan (scan.act client .opened).1
        { (scan.act client .opened).2 with
          answer := some (.ok
            { line := .opened channel (openingMessage scan.content scan.options) }) }
  | notOpened (e : Error) (hopening : scan.stage = .opening) :
      Moves timeout client scan (scan.act client (.notOpened e)).1
        { (scan.act client (.notOpened e)).2 with answer := some (.error e) }
  | called {call more later line} (hcall : scan.answer = some (.ok call))
      (hrun : Line.Runs ⟨scan.content.length, timeout⟩ scan.content call.line more later line) :
      Moves timeout client scan client
        { scan with
          answer := some (.ok { log := call.log ++ more, found := call.found ++ later, line }) }
  | completed {call} (hscanning : scan.stage = .scanning) (hcall : scan.answer = some (.ok call))
      (hdone : call.line.session.phase = .done) (hgone : call.line.listening = false) :
      Moves timeout client scan (scan.act client (.completed call.line.session.completion)).1
        (scan.act client (.completed call.line.session.completion)).2
  | dropped (hwanted : scan.stage.result? = none) :
      Moves timeout client scan (scan.act client .dropped).1
        { (scan.act client .dropped).2 with dropped := true }

/-- One step: somebody calls for a scan or a closing, or one of those under way moves. -/
inductive Step (timeout : Duration) (w : World) : World → Prop where
  | beginScan (content : Content) (options : ScanOptions) :
      Step timeout w { w with scans := w.scans ++ [{ content, options }] }
  | beginClosing : Step timeout w { w with closings := w.closings ++ [{}] }
  | scan {i scan client after} (hscan : w.scans[i]? = some scan)
      (hmoves : scan.Moves timeout w.client client after) :
      Step timeout w { w with client, scans := w.scans.set i after }
  | close {j} (closing : Closing) (event : CloseEvent) (hclosing : w.closings[j]? = some closing) :
      Step timeout w
        { w with
          client := (closing.act w.client event).1
          closings := w.closings.set j (closing.act w.client event).2 }

end History

/-- The world can come of `start` by steps in any order. -/
inductive History (timeout : Duration) (start : History.World) : History.World → Prop where
  | start : History timeout start start
  | step {w next} (hpast : History timeout start w) (hstep : History.Step timeout w next) :
      History timeout start next

/-- A history can be continued. -/
theorem History.trans {timeout : Duration} {start w later : History.World}
    (h : History timeout start w) (hlater : History timeout w later) :
    History timeout start later := by
  induction hlater with
  | start => exact h
  | step _ hstep ih => exact .step ih hstep

namespace History

/-! ## What a scan is held to -/

/-- The scan saw an open client, and its tags and its content are within the limits. -/
def Scan.IsAdmitted (scan : Scan) : Prop :=
  scan.sawClosed = some false ∧ Admits false scan.options scan.content.length

/-- What a scan returns, over a client that is `closed` or not. A scan that was refused opened
nothing; any other one opened one call and returns why that could not be opened, or the outcome of
its session, or that it was cancelled, because the client is closed. -/
inductive Scan.Returns (scan : Scan) (closed : Bool) : Outcome String → Prop where
  | refused {sawClosed e} (hsaw : scan.sawClosed = some sawClosed)
      (hrefuses : Refuses sawClosed scan.options scan.content.length e) (hopens : scan.opens = 0)
      (hanswer : scan.answer = none) : Returns scan closed (.error e)
  | notOpened {e} (hadmitted : scan.IsAdmitted) (hopens : scan.opens = 1)
      (hanswer : scan.answer = some (.error e)) : Returns scan closed (.error e)
  | ended {call outcome} (hadmitted : scan.IsAdmitted) (hopens : scan.opens = 1)
      (hanswer : scan.answer = some (.ok call))
      (hsession : call.line.session.outcome = some outcome) : Returns scan closed outcome
  | cancelled {call} (hadmitted : scan.IsAdmitted) (hopens : scan.opens = 1)
      (hanswer : scan.answer = some (.ok call)) (hclosed : closed = true) :
      Returns scan closed (.error .cancelled)

/-- A scan that needs no more of its call was dropped, or it returns the outcome. -/
def Scan.Concluded (scan : Scan) (closed : Bool) (outcome : Outcome String) : Prop :=
  (scan.dropped = true ∧ scan.opens ≤ 1 ∧ (scan.opens = 1 → scan.IsAdmitted)) ∨
    (scan.dropped = false ∧ scan.Returns closed outcome)

/-- Where a scan stands, and what it did until then. -/
def Scan.Stands (scan : Scan) (closed : Bool) : Prop :=
  match scan.stage with
  | .start => scan.dropped = false ∧ scan.opens = 0 ∧ scan.answer = none
  | .accepted | .counted =>
    scan.dropped = false ∧ scan.IsAdmitted ∧ scan.opens = 0 ∧ scan.answer = none
  | .opening => scan.dropped = false ∧ scan.IsAdmitted ∧ scan.opens = 1 ∧ scan.answer = none
  | .scanning =>
    scan.dropped = false ∧ scan.IsAdmitted ∧ scan.opens = 1 ∧ ∃ call, scan.answer = some (.ok call)
  | .leaving outcome | .notifying outcome | .finished outcome => scan.Concluded closed outcome

/-- What holds of a scan at every point of a history. -/
structure Scan.Sound (timeout : Duration) (closed : Bool) (scan : Scan) : Prop where
  stands : scan.Stands closed
  call : ∀ call, scan.answer = some (.ok call) → scan.IsAdmitted ∧ ∃ channel : Channel,
    channel.IsBlank ∧ Line.Runs ⟨scan.content.length, timeout⟩ scan.content
      (.opened channel (openingMessage scan.content scan.options)) call.log call.found call.line

/-- A closing that changed nothing has not begun, or it found the client closed and ended. -/
structure Closing.IsIdle (closing : Closing) : Prop where
  touched : closing.touched = false
  stage : closing.stage = .start ∨ closing.stage = .finished true

/-- What holds of all closings: as long as the client is open, none has begun, and when it is
closed, all but one changed nothing. -/
def ClosingsSound (closed : Bool) (closings : List Closing) : Prop :=
  (closed = false ∧ ∀ closing ∈ closings, closing = {}) ∨
    (closed = true ∧ ∃ first : Nat, ∀ j closing, closings[j]? = some closing → j ≠ first →
      closing.IsIdle)

/-- What holds at every point of a history. -/
structure World.Sound (timeout : Duration) (w : World) : Prop where
  scans : ∀ scan ∈ w.scans, scan.Sound timeout w.client.closed
  count : w.client.scans.count = w.scans.countP (·.stage.isActive)
  shutdown : w.client.shutdown = true → w.client.closed = true
  closings : ClosingsSound w.client.closed w.closings

variable {timeout : Duration} {client after : ClientState} {scan moved : Scan} {closed : Bool}
  {options : ScanOptions} {length : UInt64}

/-! ## The shared state -/

/-- Scans neither close a client nor announce it. -/
theorem step_closed (stage : ScanStage) (event : ScanEvent) :
    (stage.step options length client event).1.closed = client.closed ∧
      (stage.step options length client event).1.shutdown = client.shutdown := by
  unfold ScanStage.step
  split
  · split <;> exact ⟨rfl, rfl⟩
  all_goals exact ⟨rfl, rfl⟩

/-- The count follows the scan: it grows when the scan becomes active and shrinks when it ceases. -/
theorem step_count (stage : ScanStage) (event : ScanEvent)
    (hcounted : stage.isActive = true → 0 < client.scans.count) :
    (stage.step options length client event).1.scans.count + (if stage.isActive then 1 else 0) =
      client.scans.count +
        if (stage.step options length client event).2.isActive then 1 else 0 := by
  unfold ScanStage.step
  split
  case h_1 => split <;> rfl
  case h_7 => cases client.shutdown <;> rfl
  case h_8 outcome =>
    have hpositive := hcounted rfl
    have hgone (last : Bool) :
        (if last then ScanStage.notifying outcome else .finished outcome).isActive = false := by
      cases last <;> rfl
    show client.scans.count - 1 + 1 = client.scans.count + if _ then 1 else 0
    rw [hgone, Nat.sub_add_cancel hpositive]
    rfl
  all_goals rfl

/-- A closing keeps the count, and it leaves a closed client closed. Only one that has closed the
client announces that. -/
theorem close_step (stage : CloseStage) (event : CloseEvent) :
    (stage.step client event).1.scans.count = client.scans.count ∧
      (client.closed = true → (stage.step client event).1.closed = true) ∧
      ((stage.step client event).1.shutdown = true →
        client.shutdown = true ∨ stage = .announcing) := by
  unfold CloseStage.step
  split
  case h_1 => exact ⟨rfl, fun _ => rfl, .inl⟩
  case h_2 => exact ⟨rfl, id, fun _ => .inr rfl⟩
  case h_4 => split <;> exact ⟨rfl, id, .inl⟩
  all_goals exact ⟨rfl, id, .inl⟩

/-- A closing stands at its start only as long as it had no step. -/
theorem close_step_of_start {stage : CloseStage} {event : CloseEvent}
    (h : (stage.step client event).2 = .start) :
    stage = .start ∧ stage.step client event = (client, stage) := by
  cases stage <;> cases event <;> simp only [CloseStage.step] at h ⊢
  case start.next => split at h <;> cases h
  case start.graceOver => simp
  case looking.next => split at h <;> cases h
  case waiting.next => split at h <;> cases h
  all_goals cases h

/-- A closing is over in time if it was so before, or if it finds the client closed, or if it
looks at the count and sees that no scan is active. -/
theorem close_step_of_finished {stage : CloseStage} {event : CloseEvent}
    (h : (stage.step client event).2 = .finished true) :
    (stage = .finished true ∧ stage.step client event = (client, stage)) ∨
      (stage = .start ∧ event = .next ∧ client.closed = true) ∨
      (stage = .looking ∧ event = .next ∧ client.scans.isIdle = true) := by
  cases stage <;> cases event <;> simp only [CloseStage.step] at h ⊢
  case start.next =>
    split at h
    · exact .inr (.inl ⟨trivial, trivial, ‹_›⟩)
    · cases h
  case looking.next =>
    split at h
    · exact .inr (.inr ⟨trivial, trivial, ‹_›⟩)
    · cases h
  case waiting.next => split at h <;> cases h
  case finished.next | finished.graceOver => exact .inl ⟨h, trivial⟩
  all_goals cases h

/-! ## The steps of scans -/

/-- What an event makes of a scan, told by the step of its stage. -/
theorem Scan.act_of_step {stage next : ScanStage} {event : ScanEvent} (hstage : scan.stage = stage)
    (hstep : stage.step scan.options scan.content.length client event = (after, next)) :
    (scan.act client event).2 =
      { scan with stage := next, opens := scan.opens + (after.opens - client.opens) } := by
  unfold Scan.act
  rw [hstage, hstep]

/-- A step that opens no call changes nothing of a scan but its stage. -/
theorem Scan.act_of_step_of_opens {stage next : ScanStage} {event : ScanEvent}
    (hstage : scan.stage = stage)
    (hstep : stage.step scan.options scan.content.length client event = (after, next))
    (hopens : after.opens = client.opens) :
    (scan.act client event).2 = { scan with stage := next } := by
  rw [Scan.act_of_step hstage hstep, hopens, Nat.sub_self, Nat.add_zero]

/-- What a scan returns does not depend on its stage, nor on how the client is closed later. -/
theorem Scan.Returns.later {outcome : Outcome String} {later : Bool} (stage : ScanStage)
    (hlater : closed = true → later = true) (h : scan.Returns closed outcome) :
    Scan.Returns { scan with stage } later outcome := by
  cases h with
  | refused hsaw hrefuses hopens hanswer => exact .refused hsaw hrefuses hopens hanswer
  | notOpened hadmitted hopens hanswer => exact .notOpened hadmitted hopens hanswer
  | ended hadmitted hopens hanswer hsession => exact .ended hadmitted hopens hanswer hsession
  | cancelled hadmitted hopens hanswer hclosed =>
      exact .cancelled hadmitted hopens hanswer (hlater hclosed)

/-- The same holds if it may have been dropped. -/
theorem Scan.Concluded.later {outcome : Outcome String} {later : Bool} (stage : ScanStage)
    (hlater : closed = true → later = true) (h : scan.Concluded closed outcome) :
    Scan.Concluded { scan with stage } later outcome :=
  h.imp_right fun ⟨hkept, hreturns⟩ => ⟨hkept, hreturns.later stage hlater⟩

/-- Where a scan stands, told by its stage. -/
theorem Scan.Stands.at {stage : ScanStage} (h : scan.Stands closed) (hstage : scan.stage = stage) :
    Scan.Stands { scan with stage } closed := by
  subst hstage
  exact h

/-- A scan whose outcome is known is concluded. -/
theorem Scan.stands_iff_concluded {outcome : Outcome String}
    (hknown : scan.stage.result? = some outcome) :
    scan.Stands closed ↔ scan.Concluded closed outcome := by
  unfold Scan.Stands
  cases hstage : scan.stage with
  | start | accepted | counted | opening | scanning =>
      rw [hstage] at hknown
      cases hknown
  | leaving | notifying | finished =>
      rw [hstage] at hknown
      cases hknown
      rfl

/-- A scan opens one call at most, and none unless it is admitted. -/
theorem Scan.Stands.opens_le (h : scan.Stands closed) :
    scan.opens ≤ 1 ∧ (scan.opens = 1 → scan.IsAdmitted) := by
  cases hstage : scan.stage with
  | start =>
      obtain ⟨-, hopens, -⟩ := h.at hstage
      rw [show scan.opens = 0 from hopens]
      exact ⟨Nat.zero_le 1, nofun⟩
  | accepted | counted =>
      obtain ⟨-, hadmitted, hopens, -⟩ := h.at hstage
      rw [show scan.opens = 0 from hopens]
      exact ⟨Nat.zero_le 1, nofun⟩
  | opening | scanning =>
      obtain ⟨-, hadmitted, hopens, -⟩ := h.at hstage
      exact ⟨Nat.le_of_eq hopens, fun _ => hadmitted⟩
  | leaving outcome | notifying outcome | finished outcome =>
      have hknown : scan.Concluded closed outcome :=
        (Scan.stands_iff_concluded (by rw [hstage]; rfl)).1 h
      rcases hknown with ⟨-, hopens⟩ | ⟨-, hreturns⟩
      · exact hopens
      · cases hreturns with
        | refused _ _ hopens =>
            rw [hopens]
            exact ⟨Nat.zero_le 1, nofun⟩
        | notOpened hadmitted hopens | ended hadmitted hopens | cancelled hadmitted hopens =>
            exact ⟨Nat.le_of_eq hopens, fun _ => hadmitted⟩

/-- Closing the client does not harm a scan. -/
theorem Scan.Sound.mono {later : Bool} (hlater : closed = true → later = true)
    (h : scan.Sound timeout closed) : scan.Sound timeout later := by
  refine ⟨?_, h.call⟩
  have hstands := h.stands
  unfold Scan.Stands at hstands ⊢
  split
  all_goals
    rename_i hstage
    rw [hstage] at hstands
  case h_6 | h_7 | h_8 => exact Scan.Concluded.later scan.stage hlater hstands
  all_goals exact hstands

/-- A new scan did nothing yet. -/
theorem Scan.sound_new (content : Content) (options : ScanOptions) :
    Scan.Sound timeout closed { content, options } := by
  refine ⟨?_, fun call hcall => ?_⟩
  · exact ⟨rfl, rfl, rfl⟩
  · exact absurd hcall.symm (Option.some_ne_none _)

/-- A scan that checks the client is refused, or it is admitted. -/
theorem Scan.Sound.checked (h : scan.Sound timeout client.closed) (hstart : scan.stage = .start) :
    Scan.Sound timeout client.closed
      { (scan.act client .next).2 with sawClosed := some client.closed } := by
  obtain ⟨hkept, hopens, hanswer⟩ := h.stands.at hstart
  have hnone (call : ScanCall) : scan.answer ≠ some (.ok call) := by
    rw [show scan.answer = none from hanswer]
    exact nofun
  rcases admits_or_refuses client.closed scan.options scan.content.length
    with hadmits | ⟨e, hrefuses⟩
  · have hact : (scan.act client .next).2 = { scan with stage := .accepted } :=
      Scan.act_of_step_of_opens hstart (by rw [ScanStage.step, hadmits.checkScan_eq]) rfl
    have hopen := hadmits.isOpen
    rw [hact]
    rw [hopen] at hadmits ⊢
    exact ⟨⟨hkept, ⟨rfl, hadmits⟩, hopens, hanswer⟩, fun call hcall => absurd hcall (hnone call)⟩
  · have hact : (scan.act client .next).2 = { scan with stage := .finished (.error e) } :=
      Scan.act_of_step_of_opens hstart (by rw [ScanStage.step, hrefuses.checkScan_eq]) rfl
    rw [hact]
    exact ⟨.inr ⟨hkept, .refused rfl hrefuses hopens hanswer⟩,
      fun call hcall => absurd hcall (hnone call)⟩

/-- A scan goes on by itself. -/
theorem Scan.Sound.next (hshutdown : client.shutdown = true → client.closed = true)
    (h : scan.Sound timeout client.closed) (hstarted : scan.stage ≠ .start) :
    Scan.Sound timeout client.closed (scan.act client .next).2 := by
  cases hstage : scan.stage with
  | start => exact absurd hstage hstarted
  | accepted =>
      have hact : (scan.act client .next).2 = { scan with stage := .counted } :=
        Scan.act_of_step_of_opens hstage rfl rfl
      obtain ⟨hkept, hadmitted, hopens, hanswer⟩ := h.stands.at hstage
      rw [hact]
      exact ⟨⟨hkept, hadmitted, hopens, hanswer⟩, h.call⟩
  | counted =>
      obtain ⟨hkept, hadmitted, hopens, hanswer⟩ := h.stands.at hstage
      have hact : (scan.act client .next).2 = { scan with stage := .opening, opens := 1 } := by
        rw [Scan.act_of_step hstage rfl, show scan.opens = 0 from hopens, Nat.zero_add,
          Nat.add_sub_cancel_left]
      rw [hact]
      exact ⟨⟨hkept, hadmitted, rfl, hanswer⟩, h.call⟩
  | opening =>
      have hact : (scan.act client .next).2 = { scan with stage := .opening } :=
        Scan.act_of_step_of_opens hstage rfl rfl
      rw [hact]
      exact ⟨h.stands.at hstage, h.call⟩
  | scanning =>
      obtain ⟨hkept, hadmitted, hopens, call, hanswer⟩ := h.stands.at hstage
      have hact : (scan.act client .next).2 = { scan with
          stage := if client.shutdown then .leaving (.error .cancelled) else .scanning } :=
        Scan.act_of_step_of_opens hstage rfl rfl
      rw [hact]
      cases hshut : client.shutdown with
      | true =>
          exact ⟨.inr ⟨hkept, .cancelled hadmitted hopens hanswer (hshutdown hshut)⟩, h.call⟩
      | false =>
          exact ⟨h.stands.at hstage, h.call⟩
  | leaving outcome =>
      have hknown : scan.Concluded client.closed outcome :=
        (Scan.stands_iff_concluded (by rw [hstage]; rfl)).1 h.stands
      have hact : (scan.act client .next).2 = { scan with
          stage := if client.scans.leave.2 then .notifying outcome else .finished outcome } :=
        Scan.act_of_step_of_opens hstage rfl rfl
      rw [hact]
      refine ⟨?_, h.call⟩
      split <;> exact hknown.later _ id
  | notifying outcome | finished outcome =>
      have hknown : scan.Concluded client.closed outcome :=
        (Scan.stands_iff_concluded (by rw [hstage]; rfl)).1 h.stands
      have hact : (scan.act client .next).2 = { scan with stage := .finished outcome } :=
        Scan.act_of_step_of_opens hstage rfl rfl
      rw [hact]
      exact ⟨hknown.later _ id, h.call⟩

/-- The answer of the scanner to the call of a scan. -/
theorem Scan.Sound.opened (h : scan.Sound timeout closed) (hopening : scan.stage = .opening)
    {channel : Channel} (hblank : channel.IsBlank) :
    Scan.Sound timeout closed { (scan.act client .opened).2 with
      answer := some (.ok
        { line := .opened channel (openingMessage scan.content scan.options) }) } := by
  obtain ⟨hkept, hadmitted, hopens, -⟩ := h.stands.at hopening
  have hact : (scan.act client .opened).2 = { scan with stage := .scanning } :=
    Scan.act_of_step_of_opens hopening rfl rfl
  rw [hact]
  refine ⟨⟨hkept, hadmitted, hopens, _, rfl⟩, fun call hcall => ?_⟩
  cases hcall
  exact ⟨hadmitted, channel, hblank, .start⟩

/-- The call of a scan could not be opened. -/
theorem Scan.Sound.notOpened (h : scan.Sound timeout closed) (e : Error)
    (hopening : scan.stage = .opening) :
    Scan.Sound timeout closed
      { (scan.act client (.notOpened e)).2 with answer := some (.error e) } := by
  obtain ⟨hkept, hadmitted, hopens, -⟩ := h.stands.at hopening
  have hact : (scan.act client (.notOpened e)).2 = { scan with stage := .leaving (.error e) } :=
    Scan.act_of_step_of_opens hopening rfl rfl
  rw [hact]
  exact ⟨.inr ⟨hkept, .notOpened hadmitted hopens rfl⟩, fun call hcall => by cases hcall⟩

/-- A session that is over has an outcome. -/
theorem outcome_eq_some_iff {terms : Session.Terms} {log : List Turn} {s : Session}
    (h : Session.Path terms {} log s) {outcome : Outcome String} :
    s.outcome = some outcome ↔ s.phase = .done ∧ s.completion = outcome := by
  obtain ⟨houtcome, hphase⟩ := h.concluded
  rw [hphase, ← Option.isSome_map (f := Session.Ending.outcome), ← houtcome, Session.completion]
  cases s.outcome <;> simp

/-- What a scan returns does not change while its call goes on. -/
theorem Scan.Concluded.called {outcome : Outcome String} {call : ScanCall} (later : ScanCall)
    (h : scan.Concluded closed outcome) (hcall : scan.answer = some (.ok call))
    (hsession : call.line.session.outcome = some outcome →
      later.line.session.outcome = some outcome) :
    Scan.Concluded { scan with answer := some (.ok later) } closed outcome := by
  refine h.imp_right fun ⟨hkept, hreturns⟩ => ⟨hkept, ?_⟩
  cases hreturns with
  | refused _ _ _ hanswer | notOpened _ _ hanswer =>
      rw [hanswer] at hcall
      cases hcall
  | ended hadmitted hopens hanswer houtcome =>
      rw [hanswer] at hcall
      cases hcall
      exact .ended hadmitted hopens rfl (hsession houtcome)
  | cancelled hadmitted hopens _ hclosed => exact .cancelled hadmitted hopens rfl hclosed

/-- The call of a scan goes on. If its session has an outcome already, it keeps it. -/
theorem Scan.Sound.called (h : scan.Sound timeout closed) {call : ScanCall} {more : List Turn}
    {later : Line.Found} {line : Line} (hcall : scan.answer = some (.ok call))
    (hrun : Line.Runs ⟨scan.content.length, timeout⟩ scan.content call.line more later line) :
    Scan.Sound timeout closed { scan with
      answer := some (.ok { log := call.log ++ more, found := call.found ++ later, line }) } := by
  obtain ⟨hadmitted, channel, hblank, hpast⟩ := h.call call hcall
  have hsame (outcome : Outcome String) (houtcome : call.line.session.outcome = some outcome) :
      line.session.outcome = some outcome := by
    have hdone := ((outcome_eq_some_iff (hpast.path rfl)).1 houtcome).1
    rw [hrun.session_eq_of_done hdone, houtcome]
  refine ⟨?_, fun call hcall => ?_⟩
  · cases hstage : scan.stage with
    | start =>
        obtain ⟨-, -, hnone⟩ := h.stands.at hstage
        cases hcall.symm.trans hnone
    | accepted | counted | opening =>
        obtain ⟨-, -, -, hnone⟩ := h.stands.at hstage
        cases hcall.symm.trans hnone
    | scanning =>
        obtain ⟨hkept, -, hopens, -⟩ := h.stands.at hstage
        exact ⟨hkept, hadmitted, hopens, _, rfl⟩
    | leaving outcome | notifying outcome | finished outcome =>
        have hknown : scan.Concluded closed outcome :=
          (Scan.stands_iff_concluded (by rw [hstage]; rfl)).1 h.stands
        have hcalled := hknown.called
            { log := call.log ++ more, found := call.found ++ later, line }
          hcall (hsame outcome)
        rw [hstage] at hcalled
        exact hcalled
  · cases hcall
    exact ⟨hadmitted, channel, hblank, hpast.append hrun⟩

/-- A scan gets the outcome of its session. -/
theorem Scan.Sound.completed (h : scan.Sound timeout closed) {call : ScanCall}
    (hscanning : scan.stage = .scanning) (hcall : scan.answer = some (.ok call))
    (hdone : call.line.session.phase = .done) :
    Scan.Sound timeout closed (scan.act client (.completed call.line.session.completion)).2 := by
  obtain ⟨hkept, hadmitted, hopens, -⟩ := h.stands.at hscanning
  have hact : (scan.act client (.completed call.line.session.completion)).2 =
      { scan with stage := .leaving call.line.session.completion } :=
    Scan.act_of_step_of_opens hscanning rfl rfl
  obtain ⟨-, channel, -, hpast⟩ := h.call call hcall
  have houtcome := (outcome_eq_some_iff (hpast.path rfl)).2 ⟨hdone, rfl⟩
  rw [hact]
  exact ⟨.inr ⟨hkept, .ended hadmitted hopens hcall houtcome⟩, h.call⟩

/-- A scan is dropped. -/
theorem Scan.Sound.dropped (h : scan.Sound timeout closed)
    (hwanted : scan.stage.result? = none) :
    Scan.Sound timeout closed { (scan.act client .dropped).2 with dropped := true } := by
  have hact : ∃ stage, (scan.act client .dropped).2 = { scan with stage } ∧
      stage.result? = some ScanStage.abandoned := by
    cases hstage : scan.stage with
    | start | accepted | counted | opening | scanning =>
        exact ⟨_, Scan.act_of_step_of_opens hstage rfl rfl, rfl⟩
    | leaving | notifying | finished =>
        rw [hstage] at hwanted
        cases hwanted
  obtain ⟨stage, hact, hknown⟩ := hact
  rw [hact]
  exact ⟨(Scan.stands_iff_concluded hknown).2 (.inl ⟨rfl, h.stands.opens_le⟩), h.call⟩

/-- Every move of a scan keeps it sound. -/
theorem Scan.Moves.sound (hshutdown : client.shutdown = true → client.closed = true)
    (h : scan.Sound timeout client.closed) (hmoves : scan.Moves timeout client after moved) :
    moved.Sound timeout client.closed := by
  cases hmoves with
  | checked hstart => exact h.checked hstart
  | next hstarted => exact h.next hshutdown hstarted
  | opened channel hopening hblank => exact h.opened hopening hblank
  | notOpened e hopening => exact h.notOpened e hopening
  | called hcall hrun => exact h.called hcall hrun
  | completed hscanning hcall hdone => exact h.completed hscanning hcall hdone
  | dropped hwanted => exact h.dropped hwanted

/-- A move of a scan leaves the client open or closed, and the count follows it. -/
theorem Scan.Moves.clientState (hcounted : scan.stage.isActive = true → 0 < client.scans.count)
    (hmoves : scan.Moves timeout client after moved) :
    after.closed = client.closed ∧ after.shutdown = client.shutdown ∧
      after.scans.count + (if scan.stage.isActive then 1 else 0) =
        client.scans.count + if moved.stage.isActive then 1 else 0 := by
  have hact (event : ScanEvent) :
      (scan.act client event).1.closed = client.closed ∧
        (scan.act client event).1.shutdown = client.shutdown ∧
        (scan.act client event).1.scans.count + (if scan.stage.isActive then 1 else 0) =
          client.scans.count + if (scan.act client event).2.stage.isActive then 1 else 0 :=
    ⟨(step_closed scan.stage event).1, (step_closed scan.stage event).2,
      step_count scan.stage event hcounted⟩
  cases hmoves with
  | checked | next | opened | notOpened | completed | dropped => exact hact _
  | called => exact ⟨rfl, rfl, rfl⟩

/-! ## The steps of closings -/

/-- On a client that is closed such a closing changes nothing. -/
theorem Closing.IsIdle.act {closing : Closing} (h : closing.IsIdle) (event : CloseEvent)
    (hclosed : client.closed = true) :
    (closing.act client event).1 = client ∧ (closing.act client event).2.IsIdle := by
  have hsame : ({ client with closed := true } : ClientState) = client := by
    rw [← hclosed]
  obtain ⟨stage, touched⟩ := closing
  obtain ⟨rfl, rfl | rfl⟩ := h
  · cases event with
    | next =>
        simp only [Closing.act, CloseStage.step, hclosed, hsame]
        exact ⟨trivial, by simp, .inr rfl⟩
    | graceOver => exact ⟨rfl, by simp [Closing.act, CloseStage.step], .inl rfl⟩
  · cases event with
    | next | graceOver => exact ⟨rfl, by simp [Closing.act, CloseStage.step], .inr rfl⟩

/-- A new closing joins the others. -/
theorem ClosingsSound.begin {closings : List Closing} (h : ClosingsSound closed closings) :
    ClosingsSound closed (closings ++ [({} : Closing)]) := by
  rcases h with ⟨hopen, hnew⟩ | ⟨hclosed, first, hidle⟩
  · refine .inl ⟨hopen, fun closing hmem => ?_⟩
    exact (List.mem_append.1 hmem).elim (hnew closing) List.mem_singleton.1
  · refine .inr ⟨hclosed, first, fun j closing hclosing hother => ?_⟩
    rcases Places.getElem?_concat_cases hclosing with hold | rfl
    · exact hidle j closing hold hother
    · exact ⟨rfl, .inl rfl⟩

/-- A step of a closing keeps what holds of all of them. The first one to take its step closes the
client. -/
theorem ClosingsSound.act {closings : List Closing} {j : Nat} {closing : Closing}
    (h : ClosingsSound client.closed closings) (hclosing : closings[j]? = some closing)
    (event : CloseEvent) :
    ClosingsSound (closing.act client event).1.closed
      (closings.set j (closing.act client event).2) := by
  rcases h with ⟨hopen, hnew⟩ | ⟨hclosed, first, hidle⟩
  · obtain rfl := hnew closing (List.mem_of_getElem? hclosing)
    cases event with
    | next =>
        refine .inr ⟨rfl, j, fun k other hother hne => ?_⟩
        rw [List.getElem?_set_ne (Ne.symm hne)] at hother
        obtain rfl := hnew other (List.mem_of_getElem? hother)
        exact ⟨rfl, .inl rfl⟩
    | graceOver =>
        have hact : Closing.act {} client .graceOver = (client, {}) := by
          simp [Closing.act, CloseStage.step]
        rw [hact]
        refine .inl ⟨hopen, fun other hother => ?_⟩
        exact (List.mem_or_eq_of_mem_set hother).elim (hnew other) id
  · refine .inr ⟨(close_step closing.stage event).2.1 hclosed, first, fun k other hother hne => ?_⟩
    rcases Places.getElem?_set_cases hother with ⟨rfl, rfl⟩ | ⟨-, hold⟩
    · exact ((hidle k closing hclosing hne).act event hclosed).2
    · exact hidle k other hold hne

/-- Only a client that is closed has a closing under way. -/
theorem ClosingsSound.closed_of_announcing {closings : List Closing} {closing : Closing}
    (h : ClosingsSound closed closings) (hmem : closing ∈ closings)
    (hannouncing : closing.stage = .announcing) : closed = true := by
  rcases h with ⟨-, hnew⟩ | ⟨hclosed, -⟩
  · rw [hnew closing hmem] at hannouncing
    cases hannouncing
  · exact hclosed

/-! ## Worlds -/

/-- Every step keeps a world sound. -/
theorem Step.sound {w next : World} (h : w.Sound timeout) (hstep : Step timeout w next) :
    next.Sound timeout := by
  cases hstep with
  | beginScan content options =>
      refine ⟨fun scan hmem => ?_, ?_, h.shutdown, h.closings⟩
      · rcases List.mem_append.1 hmem with hmem | hmem
        · exact h.scans scan hmem
        · obtain rfl := List.mem_singleton.1 hmem
          exact Scan.sound_new content options
      · show w.client.scans.count = _
        rw [List.countP_append, h.count]
        rfl
  | beginClosing => exact ⟨h.scans, h.count, h.shutdown, h.closings.begin⟩
  | @scan i scan client after hscan hmoves =>
      have hmem := List.mem_of_getElem? hscan
      have hcounted : scan.stage.isActive = true → 0 < w.client.scans.count := fun hactive => by
        rw [h.count]
        exact List.countP_pos_iff.2 ⟨scan, hmem, hactive⟩
      obtain ⟨hclosed, hshutdown, hcount⟩ := hmoves.clientState hcounted
      refine ⟨fun other hother => ?_, ?_, ?_, ?_⟩
      · show other.Sound timeout client.closed
        rw [hclosed]
        rcases List.mem_or_eq_of_mem_set hother with hold | rfl
        · exact h.scans other hold
        · exact hmoves.sound h.shutdown (h.scans scan hmem)
      · show client.scans.count = (w.scans.set i after).countP (·.stage.isActive)
        have hset := Places.countP_set_add after hscan (·.stage.isActive)
        rw [← h.count] at hset
        omega
      · show client.shutdown = true → client.closed = true
        rw [hshutdown, hclosed]
        exact h.shutdown
      · show ClosingsSound client.closed w.closings
        rw [hclosed]
        exact h.closings
  | @close j closing event hclosing =>
      obtain ⟨hcount, hclosed, hshutdown⟩ := close_step closing.stage event
      refine ⟨fun scan hmem => (h.scans scan hmem).mono hclosed, hcount.trans h.count,
        fun hafter => ?_, h.closings.act hclosing event⟩
      refine hclosed ?_
      rcases hshutdown hafter with hbefore | hannouncing
      · exact h.shutdown hbefore
      · exact h.closings.closed_of_announcing (List.mem_of_getElem? hclosing) hannouncing

/-- What holds at every point of a history. -/
theorem sound {w : World} (h : History timeout {} w) : w.Sound timeout := by
  induction h with
  | start =>
      exact ⟨fun _ hscan => absurd hscan List.not_mem_nil, rfl, fun h => absurd h (by decide),
        .inl ⟨rfl, fun _ hclosing => absurd hclosing List.not_mem_nil⟩⟩
  | step _ hstep ih => exact hstep.sound ih

end History

end MalwareScan
