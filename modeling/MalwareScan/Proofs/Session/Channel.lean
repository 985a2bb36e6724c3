import MalwareScan.Session.Channel

/-!
# The end of a channel

A channel is live until it is half-closed, aborted or dropped, and from then on it is over. What the
far side does in between changes neither, and takes out of the channel only what is in it. When a
channel is over, the far side gets the messages that are still queued and then the end of the stream
(`IsOver.endsAfter`).
-/

namespace MalwareScan

open Wire (ClientMessage Status)

/-- The message that the far side found. -/
def Receipt.message? : Receipt → Option ClientMessage
  | message m => some m
  | empty | disconnected => none

/-- The status that the far side found. -/
def SignalReceipt.status? : SignalReceipt → Option Status
  | .status given => some given
  | .undecided | .settled => none

/-- What a message adds to the queue. -/
def Sending.queued (m : ClientMessage) : Sending → List ClientMessage
  | sent => [m]
  | full | failed _ => []

namespace Channel

/-- The stream may go on, and its signal is undecided. -/
structure IsLive (c : Channel) : Prop where
  isOpen : c.isOpen = true
  signal : c.signal = .undecided

/-- Nothing more can be sent, not even into a reserved place, and the signal is decided. -/
structure IsOver (c : Channel) : Prop where
  isOpen : c.isOpen = false
  reserved : c.reserved = false
  signal : c.signal ≠ .undecided

/-- The status that the far side has not taken yet. -/
def status? (c : Channel) : Option Status :=
  match c.signal with
  | .given status => some status
  | .undecided | .settled => none

/-- The far side gets these messages one by one, and then the end of the stream. -/
inductive EndsAfter : Channel → List ClientMessage → Prop where
  | disconnected {c} (hreceipt : c.receive.1 = .disconnected) : EndsAfter c []
  | message {c m messages} (hreceipt : c.receive.1 = .message m)
      (hlater : EndsAfter c.receive.2 messages) : EndsAfter c (m :: messages)

variable {c d : Channel} {m : ClientMessage} {status : Status} {sending : Sending}

/-- A new channel is live. -/
theorem isLive_new (capacity : Nat) : (new capacity).IsLive := ⟨rfl, rfl⟩

/-! ## The sending side -/

/-- To be ready changes at most the reservation. -/
theorem ready?_eq_some (h : c.ready? = some d) :
    d.isOpen = c.isOpen ∧ d.signal = c.signal ∧ d.queue = c.queue := by
  unfold ready? at h
  split at h
  · cases h
    exact ⟨rfl, rfl, rfl⟩
  · split at h <;> cases h
    exact ⟨rfl, rfl, rfl⟩

/-- To send a message changes neither the stream nor its signal, and queues the message if it is
sent. -/
theorem send_eq (h : c.send m = (sending, d)) :
    d.isOpen = c.isOpen ∧ d.signal = c.signal ∧ d.queue = c.queue ++ sending.queued m := by
  unfold send at h
  repeat' split at h
  all_goals
    cases h
    simp [Sending.queued]

/-- A channel stays live when a message is sent. -/
theorem IsLive.send (h : c.IsLive) (m : ClientMessage) : (c.send m).2.IsLive := by
  obtain ⟨hopen, hsignal, -⟩ := send_eq (show c.send m = ((c.send m).1, (c.send m).2) from rfl)
  exact ⟨hopen.trans h.isOpen, hsignal.trans h.signal⟩

/-- Half-closing a live channel ends it without a status. -/
theorem IsLive.halfClose (h : c.IsLive) : c.halfClose.IsOver ∧ c.halfClose.status? = none := by
  refine ⟨⟨rfl, rfl, ?_⟩, ?_⟩ <;> simp [Channel.halfClose, status?, h.signal]

/-- Aborting a live channel ends it with the status. -/
theorem IsLive.abort (h : c.IsLive) (status : Status) :
    (c.abort status).IsOver ∧ (c.abort status).status? = some status := by
  refine ⟨⟨rfl, rfl, ?_⟩, ?_⟩ <;> simp [Channel.abort, status?, h.signal]

/-- A live channel has no status yet. -/
theorem IsLive.status?_eq_none (h : c.IsLive) : c.status? = none := by
  simp [status?, h.signal]

/-- A channel that is over cannot be aborted any more. -/
theorem IsOver.abort_eq (h : c.IsOver) (status : Status) : c.abort status = c := by
  obtain ⟨capacity, queue, reserved, isOpen, receiving, signal⟩ := c
  obtain ⟨rfl, rfl, hsignal⟩ := h
  simp only [ne_eq] at hsignal
  simp [abort, shut, hsignal]

/-- A channel that is over cannot be half-closed any more. -/
theorem IsOver.halfClose_eq (h : c.IsOver) : c.halfClose = c := by
  obtain ⟨capacity, queue, reserved, isOpen, receiving, signal⟩ := c
  obtain ⟨rfl, rfl, hsignal⟩ := h
  simp only [ne_eq] at hsignal
  simp [halfClose, shut, hsignal]

/-! ## The far side -/

/-- To receive changes nothing but the queue, of which it takes the first message. -/
theorem receive_eq (c : Channel) :
    c.receive.1.message?.toList ++ c.receive.2.queue = c.queue ∧
      c.receive.2.isOpen = c.isOpen ∧ c.receive.2.reserved = c.reserved ∧
      c.receive.2.signal = c.signal := by
  unfold receive
  split
  · rename_i hqueue
    exact ⟨hqueue.symm, rfl, rfl, rfl⟩
  · repeat' split
    all_goals
      rename_i hqueue _
      simp [Receipt.message?, hqueue]

/-- To look for the signal takes the status, if there is one, and changes nothing else. -/
theorem takeSignal_eq (c : Channel) :
    c.takeSignal.1.status?.toList ++ c.takeSignal.2.status?.toList = c.status?.toList ∧
      c.takeSignal.2.isOpen = c.isOpen ∧ c.takeSignal.2.reserved = c.reserved ∧
      c.takeSignal.2.queue = c.queue ∧
      (c.takeSignal.2.signal = .undecided ↔ c.signal = .undecided) := by
  unfold takeSignal
  split <;> rename_i hsignal <;> simp [SignalReceipt.status?, status?, hsignal]

/-- When a channel is over, the messages that are queued are the last ones. -/
theorem IsOver.endsAfter (h : c.IsOver) : c.EndsAfter c.queue := by
  generalize hqueue : c.queue = queue
  induction queue generalizing c with
  | nil =>
      refine .disconnected ?_
      simp [receive, hqueue, h.isOpen, h.reserved]
  | cons m queue ih =>
      have hreceive : c.receive = (.message m, { c with queue }) := by simp [receive, hqueue]
      refine .message (by rw [hreceive]) ?_
      rw [hreceive]
      exact ih ⟨h.isOpen, h.reserved, h.signal⟩ rfl

end Channel

end MalwareScan
