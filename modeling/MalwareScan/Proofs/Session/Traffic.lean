import MalwareScan.Proofs.Session.Channel

/-!
# Traffic through a channel

A channel has two sides that do not wait for each other's calls. `History` interleaves what they
do, in any order, with what comes of each deed; a call that has to wait is one that finds no room
and is made again later. A side that is gone does nothing any more.

Each deed keeps three invariants: places are not taken twice (`Does.load_le`), what is queued
comes between what was received and what was accepted (`Does.queue_eq`), and a decided signal
stays decided (`Does.isOver`). The main theorem is `channel_is_orderly`.
-/

namespace MalwareScan.Channel

open Wire (ClientMessage Status)

/-- What one of the sides does to a channel, and what comes of it. The sending side drops the
channel when it goes away; the far side may stop receiving, and it leaves when it does not even
want what is queued. -/
inductive Deed where
  | ready (found : Bool)
  | send (m : ClientMessage) (sending : Sending)
  | halfClose
  | abort (status : Status)
  | drop
  | receive (receipt : Receipt)
  | takeSignal (receipt : SignalReceipt)
  | stopReceiving
  | leave

namespace Deed

/-- The deed is one of the sending side. -/
def isSending : Deed → Bool
  | ready _ | send _ _ | halfClose | abort _ | drop => true
  | receive _ | takeSignal _ | stopReceiving | leave => false

/-- The deed is one at the far end of the queue. -/
def isReceiving : Deed → Bool
  | receive _ | stopReceiving | leave => true
  | ready _ | send _ _ | halfClose | abort _ | drop | takeSignal _ => false

/-- The deed is a call that sends a message. -/
def isSend : Deed → Bool
  | send _ _ => true
  | _ => false

/-- The message that the deed put into the channel. -/
def accepted : Deed → List ClientMessage
  | send m sending => sending.queued m
  | _ => []

/-- The message that the deed took out of the channel. -/
def received : Deed → List ClientMessage
  | receive receipt => receipt.message?.toList
  | _ => []

/-- The status that the deed took out of the signal. -/
def taken : Deed → List Status
  | takeSignal receipt => receipt.status?.toList
  | _ => []

/-- What the deed decides about the signal, unless it is decided already: that there is no status,
or which one. -/
def decision? : Deed → Option (Option Status)
  | halfClose => some none
  | abort status => some (some status)
  | drop => some (some droppedStatus)
  | _ => none

end Deed

/-- A deed changes a channel. To wait for room without success leaves it as it is. -/
inductive Does (c : Channel) : Deed → Channel → Prop where
  | ready {d} (h : c.ready? = some d) : Does c (.ready true) d
  | notReady (h : c.ready? = none) : Does c (.ready false) c
  | send (m) : Does c (.send m (c.send m).1) (c.send m).2
  | halfClose : Does c .halfClose c.halfClose
  | abort (status) : Does c (.abort status) (c.abort status)
  | drop : Does c .drop c.drop
  | receive : Does c (.receive c.receive.1) c.receive.2
  | takeSignal : Does c (.takeSignal c.takeSignal.1) c.takeSignal.2
  | stopReceiving : Does c .stopReceiving c.stopReceiving
  | leave : Does c .leave c.leave

/-- A side may do something as long as it is there. -/
def Deed.Possible (log : List Deed) (deed : Deed) : Prop :=
  (deed.isSending = true → Deed.drop ∉ log) ∧ (deed.isReceiving = true → Deed.leave ∉ log)

/-- All that was done to a new channel, and the channel then. -/
inductive History (capacity : Nat) : List Deed → Channel → Prop where
  | start : History capacity [] (new capacity)
  | deed {log c deed d} (hpast : History capacity log c) (hpossible : deed.Possible log)
      (hdoes : c.Does deed d) : History capacity (log ++ [deed]) d

/-- The messages that were accepted for sending, in order. -/
def accepted (log : List Deed) : List ClientMessage := log.flatMap Deed.accepted

/-- The messages that the far side received, in order. -/
def received (log : List Deed) : List ClientMessage := log.flatMap Deed.received

/-- The statuses that the far side took, in order. -/
def taken (log : List Deed) : List Status := log.flatMap Deed.taken

/-- The first decision about the signal. -/
def decided (log : List Deed) : Option (Option Status) := log.findSome? Deed.decision?

/-- The sending side was told that it need not wait, and has sent nothing since. -/
def Ready (log : List Deed) : Prop :=
  ∃ before after, log = before ++ .ready true :: after ∧ ∀ deed ∈ after, deed.isSend = false

/-- A message does not have to wait: a place is reserved, or it fails at once. -/
def IsPrompt (c : Channel) : Prop :=
  c.reserved = true ∨ c.isOpen = false ∨ c.receiving = false

variable {c d : Channel} {m : ClientMessage} {sending : Sending} {status : Status} {deed : Deed}
  {log : List Deed} {capacity : Nat}

/-! ## Places -/

/-- To be ready takes at most a free place. -/
theorem load_ready?_le (h : c.ready? = some d) (hload : c.load ≤ c.capacity) :
    d.load ≤ d.capacity ∧ d.capacity = c.capacity := by
  unfold ready? at h
  split at h
  · cases h
    exact ⟨hload, rfl⟩
  · rename_i hblocked
    split at h
    · rename_i hroom
      have hreserved : c.reserved = false := by simpa using (not_or.1 hblocked).1
      have hfree : c.load < c.capacity := by simpa [hasRoom] using hroom
      cases h
      refine ⟨?_, rfl⟩
      simpa [load, hreserved, Nat.succ_le_iff] using hfree
    · cases h

/-- A message takes the reserved place or a free one. -/
theorem load_send_le (h : c.send m = (sending, d)) (hload : c.load ≤ c.capacity) :
    d.load ≤ d.capacity ∧ d.capacity = c.capacity := by
  unfold Channel.send at h
  split at h
  · rename_i hreserved
    cases h
    refine ⟨?_, rfl⟩
    simpa [load, hreserved] using hload
  · rename_i hreserved
    repeat' split at h
    all_goals cases h
    · exact ⟨hload, rfl⟩
    · exact ⟨hload, rfl⟩
    · rename_i hroom
      have hfree : c.load < c.capacity := by simpa [hasRoom] using hroom
      refine ⟨?_, rfl⟩
      simpa [load, hreserved, Nat.succ_le_iff] using hfree
    · exact ⟨hload, rfl⟩

/-- To receive a message frees its place, and nothing else changes the places. -/
theorem load_receive_le (c : Channel) :
    c.receive.2.load ≤ c.load ∧ c.receive.2.capacity = c.capacity := by
  unfold Channel.receive
  split
  · rename_i hqueue
    simp [load, hqueue]
  · repeat' split
    all_goals exact ⟨Nat.le_refl _, rfl⟩

/-- The places that are taken stay within the capacity. -/
theorem Does.load_le (h : c.Does deed d) (hload : c.load ≤ c.capacity) :
    d.load ≤ d.capacity ∧ d.capacity = c.capacity := by
  cases h with
  | notReady | stopReceiving => exact ⟨hload, rfl⟩
  | ready h => exact load_ready?_le h hload
  | send m => exact load_send_le (m := m) rfl hload
  | halfClose | abort | drop =>
      have hqueue : c.queue.length ≤ c.load := Nat.le_add_right _ _
      exact ⟨Nat.le_trans hqueue hload, rfl⟩
  | receive =>
      obtain ⟨hle, hcapacity⟩ := c.load_receive_le
      exact ⟨hcapacity ▸ Nat.le_trans hle hload, hcapacity⟩
  | takeSignal =>
      unfold Channel.takeSignal
      split <;> exact ⟨hload, rfl⟩
  | leave =>
      have hle : c.leave.load ≤ c.load := by
        cases hreserved : c.reserved <;> simp [load, Channel.leave, hreserved]
      exact ⟨Nat.le_trans hle hload, rfl⟩

/-! ## Messages -/

/-- What is queued comes behind what is received, and what is accepted comes behind both, unless the
far side leaves. -/
theorem Does.queue_eq (h : c.Does deed d) (hleave : deed ≠ .leave) :
    deed.received ++ d.queue = c.queue ++ deed.accepted := by
  cases h with
  | notReady | halfClose | abort | drop | stopReceiving => exact (List.append_nil _).symm
  | ready h => exact (ready?_eq_some h).2.2.trans (List.append_nil _).symm
  | send m => exact (send_eq (m := m) rfl).2.2
  | receive => exact c.receive_eq.1.trans (List.append_nil _).symm
  | takeSignal => exact c.takeSignal_eq.2.2.2.1.trans (List.append_nil _).symm
  | leave => exact absurd rfl hleave

/-! ## Readiness -/

/-- A channel that is ready for a message is prompt. -/
theorem isPrompt_of_ready? (h : c.ready? = some d) : d.IsPrompt := by
  unfold ready? at h
  split at h
  · rename_i hprompt
    cases h
    simpa [IsPrompt] using hprompt
  · split at h <;> cases h
    exact .inl rfl

/-- A prompt channel takes or refuses a message at once. -/
theorem IsPrompt.send_ne_full (h : c.IsPrompt) (m : ClientMessage) : (c.send m).1 ≠ .full := by
  unfold Channel.send
  rcases h with h | h | h
  · simp [h]
  · split <;> simp [h]
  · repeat' split
    all_goals simp_all

/-- A prompt channel stays prompt until something is sent. -/
theorem Does.isPrompt (h : c.Does deed d) (hsend : deed.isSend = false) (hprompt : c.IsPrompt) :
    d.IsPrompt := by
  cases h with
  | notReady => exact hprompt
  | ready h => exact isPrompt_of_ready? h
  | send => cases hsend
  | halfClose | abort | drop => exact .inr (.inl rfl)
  | receive =>
      unfold Channel.receive
      repeat' split
      all_goals exact hprompt
  | takeSignal =>
      unfold Channel.takeSignal
      split <;> exact hprompt
  | stopReceiving | leave => exact .inr (.inr rfl)

/-- Whoever was told that there is no need to wait has sent nothing since, or was told so just
now. -/
theorem Ready.of_snoc (h : Ready (log ++ [deed])) :
    deed = .ready true ∨ (deed.isSend = false ∧ Ready log) := by
  obtain ⟨before, after, hlog, hquiet⟩ := h
  rcases List.eq_nil_or_concat after with rfl | ⟨middle, last, rfl⟩
  · obtain ⟨-, hlast⟩ := List.append_inj' hlog rfl
    exact .inl (List.singleton_inj.1 hlast)
  · rw [List.concat_eq_append, ← List.cons_append, ← List.append_assoc] at hlog
    obtain ⟨rfl, hlast⟩ := List.append_inj' hlog rfl
    obtain rfl := List.singleton_inj.1 hlast
    refine .inr ⟨hquiet _ (by simp), before, middle, rfl, fun other hother => ?_⟩
    exact hquiet other (by simp [hother])

/-! ## The signal -/

/-- A channel that is over refuses a message, and says at once that there is no need to wait. -/
theorem IsOver.refuses (h : c.IsOver) (m : ClientMessage) :
    c.send m = (.failed (.unexpected "send on a closed scan stream"), c) ∧ c.ready? = some c := by
  simp [Channel.send, ready?, h.isOpen, h.reserved]

/-- A live channel stays live until a deed decides about the signal; then it is over. -/
theorem IsLive.does (h : c.IsLive) (hdoes : c.Does deed d) :
    deed.taken = [] ∧
      match deed.decision? with
      | none => d.IsLive
      | some decision => d.IsOver ∧ d.status? = decision := by
  cases hdoes with
  | notReady | stopReceiving | leave => exact ⟨rfl, h.isOpen, h.signal⟩
  | ready hready =>
      obtain ⟨hisOpen, hsignal, -⟩ := ready?_eq_some hready
      exact ⟨rfl, hisOpen.trans h.isOpen, hsignal.trans h.signal⟩
  | send m => exact ⟨rfl, h.send m⟩
  | halfClose => exact ⟨rfl, h.halfClose⟩
  | abort status => exact ⟨rfl, h.abort status⟩
  | drop => exact ⟨rfl, h.abort droppedStatus⟩
  | receive =>
      obtain ⟨-, hisOpen, -, hsignal⟩ := c.receive_eq
      exact ⟨rfl, hisOpen.trans h.isOpen, hsignal.trans h.signal⟩
  | takeSignal =>
      obtain ⟨htaken, hisOpen, -, -, hsignal⟩ := c.takeSignal_eq
      rw [h.status?_eq_none, Option.toList_none, List.append_eq_nil_iff] at htaken
      exact ⟨htaken.1, hisOpen.trans h.isOpen, hsignal.2 h.signal⟩

/-- A channel that is over stays over. Its status is there until it is taken. -/
theorem IsOver.does (h : c.IsOver) (hdoes : c.Does deed d) :
    d.IsOver ∧ deed.taken ++ d.status?.toList = c.status?.toList := by
  cases hdoes with
  | notReady | stopReceiving | leave => exact ⟨⟨h.isOpen, h.reserved, h.signal⟩, rfl⟩
  | ready hready =>
      obtain rfl := Option.some.inj ((h.refuses (.ofChunk 0 [])).2.symm.trans hready)
      exact ⟨h, rfl⟩
  | send m =>
      rw [(h.refuses m).1]
      exact ⟨h, rfl⟩
  | halfClose =>
      rw [h.halfClose_eq]
      exact ⟨h, rfl⟩
  | abort status =>
      rw [h.abort_eq]
      exact ⟨h, rfl⟩
  | drop =>
      rw [Channel.drop, h.abort_eq]
      exact ⟨h, rfl⟩
  | receive =>
      obtain ⟨-, hisOpen, hreserved, hsignal⟩ := c.receive_eq
      refine ⟨⟨hisOpen.trans h.isOpen, hreserved.trans h.reserved, hsignal ▸ h.signal⟩, ?_⟩
      rw [Channel.status?, hsignal, ← Channel.status?]
      rfl
  | takeSignal =>
      obtain ⟨htaken, hisOpen, hreserved, -, hsignal⟩ := c.takeSignal_eq
      exact ⟨⟨hisOpen.trans h.isOpen, hreserved.trans h.reserved,
        fun hundecided => h.signal (hsignal.1 hundecided)⟩, htaken⟩

/-! ## Histories -/

/-- Until the far side leaves, nothing is lost, doubled or put out of order. -/
theorem History.queue_eq (h : History capacity log c) (hleave : Deed.leave ∉ log) :
    received log ++ c.queue = accepted log := by
  induction h with
  | start => rfl
  | @deed log c deed d _ _ hdoes ih =>
      rw [List.mem_append, not_or, List.mem_singleton] at hleave
      calc received (log ++ [deed]) ++ d.queue
          = received log ++ (deed.received ++ d.queue) := by simp [received]
        _ = received log ++ (c.queue ++ deed.accepted) := by
            rw [hdoes.queue_eq (Ne.symm hleave.2)]
        _ = accepted log ++ deed.accepted := by rw [← List.append_assoc, ih hleave.1]
        _ = accepted (log ++ [deed]) := by simp [accepted]

/-- The places that are taken stay within the capacity that was asked for, at least one. -/
theorem History.load_le (h : History capacity log c) :
    c.load ≤ c.capacity ∧ c.capacity = max capacity 1 := by
  induction h with
  | start => exact ⟨Nat.zero_le _, rfl⟩
  | deed _ _ hdoes ih =>
      obtain ⟨hload, hcapacity⟩ := hdoes.load_le ih.1
      exact ⟨hload, hcapacity.trans ih.2⟩

/-- Whoever was told that there is no need to wait finds the channel prompt. -/
theorem History.isPrompt (h : History capacity log c) (hready : Ready log) : c.IsPrompt := by
  induction h with
  | start =>
      obtain ⟨before, after, hlog, -⟩ := hready
      cases before <;> cases hlog
  | deed _ _ hdoes ih =>
      rcases hready.of_snoc with rfl | ⟨hsend, hready⟩
      · cases hdoes with
        | ready h => exact isPrompt_of_ready? h
      · exact hdoes.isPrompt hsend (ih hready)

/-- As long as nothing is decided the channel is live; then it is over, and the first decision says
which status the far side has taken or can take. -/
theorem History.signal (h : History capacity log c) :
    match decided log with
    | none => c.IsLive ∧ taken log = []
    | some decision => c.IsOver ∧ taken log ++ c.status?.toList = decision.toList := by
  induction h with
  | start => exact ⟨isLive_new _, rfl⟩
  | @deed log c deed d _ _ hdoes ih =>
      have htaken : taken (log ++ [deed]) = taken log ++ deed.taken := by simp [taken]
      have hdecided : decided (log ++ [deed]) = (decided log).or deed.decision? := by
        simp [decided, List.findSome?_append]
      rw [htaken, hdecided]
      cases hlog : decided log with
      | some decision =>
          rw [hlog] at ih
          obtain ⟨hover, hstatus⟩ := ih.1.does hdoes
          refine ⟨hover, ?_⟩
          rw [List.append_assoc, hstatus, ih.2]
      | none =>
          rw [hlog] at ih
          obtain ⟨hnothing, hlive⟩ := ih.1.does hdoes
          rw [ih.2, hnothing, Option.none_or]
          cases hdecision : deed.decision? with
          | none =>
              rw [hdecision] at hlive
              exact ⟨hlive, rfl⟩
          | some decision =>
              rw [hdecision] at hlive
              exact ⟨hlive.1, by rw [hlive.2]; rfl⟩

/-- A decision about the signal is not revised. -/
theorem decided_append {decision : Option Status} (h : decided log = some decision)
    (more : List Deed) : decided (log ++ more) = some decision := by
  rw [decided] at h ⊢
  rw [List.findSome?_append, h, Option.some_or]

/-- However the two sides of a channel get in between each other's calls:

* the queued messages and the one reserved place never take more places than the channel has;
* until the far side leaves, it has received what was accepted, in order, and the rest is queued;
* once the sending side was told that it need not wait, its next message does not wait;
* once the channel was half-closed, aborted or dropped, no message is accepted, and there is no need
  to wait for that;
* whichever of these comes first decides the signal: the far side takes its status, or none, then or
  later, and nothing else. -/
theorem channel_is_orderly (capacity : Nat) :
    ∀ log c, History capacity log c →
      c.load ≤ max capacity 1 ∧
      (Deed.leave ∉ log → received log ++ c.queue = accepted log) ∧
      (Ready log → ∀ m, (c.send m).1 ≠ .full) ∧
      (c.signal = .undecided ↔ decided log = none) ∧
      (∀ decision, decided log = some decision →
        (∀ m, c.send m = (.failed (.unexpected "send on a closed scan stream"), c)) ∧
        c.ready? = some c ∧
        ∀ more d, History capacity (log ++ more) d →
          taken (log ++ more) ++ d.status?.toList = decision.toList) := by
  intro log c h
  obtain ⟨hload, hcapacity⟩ := h.load_le
  have hsignal := h.signal
  refine ⟨hcapacity ▸ hload, h.queue_eq, fun hready => (h.isPrompt hready).send_ne_full, ?_, ?_⟩
  · cases hdecided : decided log with
    | none =>
        rw [hdecided] at hsignal
        simp [hsignal.1.signal]
    | some decision =>
        rw [hdecided] at hsignal
        simp [hsignal.1.signal]
  · intro decision hdecided
    rw [hdecided] at hsignal
    refine ⟨fun m => (hsignal.1.refuses m).1, (hsignal.1.refuses (.ofChunk 0 [])).2, ?_⟩
    intro more d hmore
    have hlater := hmore.signal
    rw [decided_append hdecided more] at hlater
    exact hlater.2

/-- A channel with one place: the place is reserved, the far side stops receiving, the message
goes out all the same, and the first of two aborts counts. -/
theorem channel_is_orderly_reserved :
    ∃ early before log c, History 0 early before ∧ Ready early ∧
      (before.send (.ofChunk 7 [])).1 ≠ .full ∧
      History 0 (early ++ log) c ∧ Deed.leave ∉ early ++ log ∧ c.load ≤ 1 ∧
      c.queue = [.ofChunk 7 []] ∧ received (early ++ log) ++ c.queue = accepted (early ++ log) ∧
      decided (early ++ log) = some (some ⟨.aborted, "content read failed"⟩) ∧
      taken (early ++ log) ++ c.status?.toList = [⟨.aborted, "content read failed"⟩] := by
  have hreserved : History 0 [.ready true] { new 0 with reserved := true } :=
    History.start.deed ⟨by simp, by simp⟩ (.ready rfl)
  have hstopped := hreserved.deed ⟨by simp, by simp⟩ .stopReceiving
  have hsent := hstopped.deed ⟨by simp, by simp⟩ (.send (.ofChunk 7 []))
  have hfirst := hsent.deed ⟨by simp, by simp⟩ (.abort ⟨.aborted, "content read failed"⟩)
  have hsecond := hfirst.deed ⟨by simp, by simp⟩ (.abort ⟨.cancelled, "too late"⟩)
  have htaken := hsecond.deed ⟨by simp, by simp⟩ .takeSignal
  have hready : Ready [.ready true, .stopReceiving] :=
    ⟨[], [.stopReceiving], rfl, by simp [Deed.isSend]⟩
  obtain ⟨-, -, hprompt, -, -⟩ := channel_is_orderly 0 _ _ hstopped
  obtain ⟨hload, hqueue, -, -, hdecided⟩ := channel_is_orderly 0 _ _ htaken
  refine ⟨_, _, _, _, hstopped, hready, hprompt hready _, htaken, by simp, hload, rfl,
    hqueue (by simp), rfl, ?_⟩
  simpa using (hdecided _ rfl).2.2 [] _ (by simpa using htaken)

end MalwareScan.Channel
