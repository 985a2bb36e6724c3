import MalwareScan.Proofs.Client.Endings

/-!
# The messages of a call

What the far side of a call gets begins with the message that opened it, and then come chunks
(`Runs.messages_opened`). It may also get nothing: a channel that does not take the first message is
broken, and a broken channel takes no other one either. Unlike `Standing` this does not need a live
channel; the channel of a call may be in any state in which it has room.
-/

namespace MalwareScan

open Session (Turn Path sentMessages)
open Wire (ClientMessage)

/-- The message carries content. -/
def IsChunk (m : ClientMessage) : Prop :=
  ∃ offset data, m = .ofChunk offset data

/-! ## Broken channels -/

namespace Channel

/-- Nothing is in the queue, which has room. -/
structure IsBlank (c : Channel) : Prop where
  queue : c.queue = []
  capacity : 1 ≤ c.capacity

/-- No message can be sent any more: no place is reserved, and one of the sides is gone. -/
structure IsBroken (c : Channel) : Prop where
  reserved : c.reserved = false
  side : c.isOpen = false ∨ c.receiving = false

variable {c : Channel} {m : ClientMessage}

/-- A new channel is blank. -/
theorem isBlank_new (capacity : Nat) : (new capacity).IsBlank :=
  ⟨rfl, Nat.le_max_right capacity 1⟩

/-- A blank channel takes a message, or it is broken. -/
theorem IsBlank.send (h : c.IsBlank) (m : ClientMessage) :
    (c.send m).2.queue = [m] ∨ (c.IsBroken ∧ (c.send m).2 = c) := by
  unfold Channel.send
  split
  · exact .inl (by rw [h.queue]; rfl)
  · rename_i hreserved
    have hreserved := Bool.eq_false_iff.2 hreserved
    split
    · rename_i hclosed
      exact .inr ⟨⟨hreserved, .inl (Bool.eq_false_iff.2 hclosed)⟩, rfl⟩
    · split
      · rename_i hgone
        exact .inr ⟨⟨hreserved, .inr (Bool.eq_false_iff.2 hgone)⟩, rfl⟩
      · have hroom : c.hasRoom = true := by
          simp [hasRoom, load, h.queue, hreserved, Nat.lt_of_lt_of_le Nat.zero_lt_one h.capacity]
        rw [if_pos hroom]
        exact .inl (by rw [h.queue]; rfl)

/-- A broken channel takes no message. -/
theorem IsBroken.send (h : c.IsBroken) (m : ClientMessage) : ∃ e, c.send m = (.failed e, c) := by
  unfold Channel.send
  rw [if_neg (by simp [h.reserved])]
  rcases h.side with hclosed | hgone
  · exact ⟨_, if_pos (by simp [hclosed])⟩
  · split
    · exact ⟨_, rfl⟩
    · exact ⟨_, if_pos (by simp [hgone])⟩

/-- Nobody has to wait for a broken channel. -/
theorem IsBroken.ready? (h : c.IsBroken) : c.ready? = some c :=
  if_pos (.inr (h.side.imp (by simp [·]) (by simp [·])))

/-- A channel without its sending side is broken. -/
theorem isBroken_abort (c : Channel) (status : Wire.Status) : (c.abort status).IsBroken :=
  ⟨rfl, .inl rfl⟩

/-- What the far side does to a channel leaves it broken. -/
theorem IsBroken.farSide (h : c.IsBroken) :
    c.receive.2.IsBroken ∧ c.stopReceiving.IsBroken ∧ c.takeSignal.2.IsBroken := by
  refine ⟨?_, ⟨h.reserved, .inr rfl⟩, ?_⟩
  · unfold receive
    split
    · exact ⟨h.reserved, h.side⟩
    · repeat' split
      all_goals exact h
  · unfold takeSignal
    split
    · exact h
    · exact ⟨h.reserved, h.side⟩
    · exact h

end Channel

/-! ## Runs of calls -/

namespace Line

/-- What was found first and then. -/
instance : Append Found :=
  ⟨fun found later => ⟨found.messages ++ later.messages, found.statuses ++ later.statuses⟩⟩

variable {terms : Session.Terms} {content : Content} {start line next : Line}
  {log more : List Turn} {found later : Found} {event : Session.Event} {waited : Option Duration}

/-- A run can be continued by another one. -/
theorem Runs.append (h : Runs terms content start log found line)
    (hmore : Runs terms content line more later next) :
    Runs terms content start (log ++ more) (found ++ later) next := by
  induction hmore with
  | start =>
      have hfound : found ++ ({} : Found) = found := by
        show Found.mk (found.messages ++ []) (found.statuses ++ []) = found
        rw [List.append_nil, List.append_nil]
      rwa [List.append_nil, hfound]
  | client waited _ hlistening hnext ih =>
      rw [← List.append_assoc]
      exact .client waited ih hlistening hnext
  | hangUp _ hlistening ih => exact .hangUp ih hlistening
  | say item _ hspeaking ih => exact .say item ih hspeaking
  | fallSilent _ ih => exact .fallSilent ih
  | receive _ ih =>
      have hrun := ih.receive
      rw [show (found ++ _ : Found).messages = found.messages ++ _ from rfl,
        List.append_assoc] at hrun
      exact hrun
  | stopReceiving _ ih => exact .stopReceiving ih
  | takeSignal _ ih =>
      have hrun := ih.takeSignal
      rw [show (found ++ _ : Found).statuses = found.statuses ++ _ from rfl,
        List.append_assoc] at hrun
      exact hrun

/-- A session that is over stays as it is. -/
theorem Runs.session_eq_of_done (h : Runs terms content start log found line)
    (hdone : start.session.phase = .done) : line.session = start.session := by
  induction h with
  | start => rfl
  | client _ _ _ hnext ih =>
      obtain ⟨-, hopen, -⟩ := next?_eq_some hnext
      rw [ih] at hopen
      exact absurd hdone hopen
  | hangUp _ _ ih | say _ _ _ ih | fallSilent _ ih | receive _ ih | stopReceiving _ ih
  | takeSignal _ ih => exact ih

/-- The session of a run takes a path. -/
theorem Runs.path (hstart : start.session = {}) (h : Runs terms content start log found line) :
    Path terms {} log line.session := by
  induction h with
  | start => exact hstart ▸ .start
  | client _ _ _ hnext ih =>
      obtain ⟨hawaits, -, hsession, -⟩ := next?_eq_some hnext
      rw [← hsession] at hawaits ih ⊢
      exact ih.turn hawaits (Session.step_moves hawaits)
  | hangUp _ _ ih | say _ _ _ ih | fallSilent _ ih | receive _ ih | stopReceiving _ ih
  | takeSignal _ ih => exact ih

/-- Signals do not touch the queue. -/
theorem queue_foldl_signalled (signals : List Session.Signal) (c : Channel) :
    (signals.foldl signalled c).queue = c.queue := by
  induction signals generalizing c with
  | nil => rfl
  | cons signal signals ih => rw [List.foldl_cons, ih, queue_signalled]

/-- The far side got, or can still get, what was queued at the start and what the session sent. -/
theorem Runs.messages_eq (h : Runs terms content start log found line) :
    found.messages ++ line.channel.queue = start.channel.queue ++ sentMessages log := by
  induction h with
  | start => simp [sentMessages]
  | @client log found line event next _ _ _ hnext ih =>
      obtain ⟨-, -, -, -, -, hqueue⟩ := next?_eq_some hnext
      show found.messages ++ (List.foldl signalled next.channel _).queue = _
      rw [queue_foldl_signalled, hqueue, Session.sentMessages_snoc, ← List.append_assoc, ih,
        List.append_assoc]
  | hangUp _ _ ih | say _ _ _ ih | fallSilent _ ih | stopReceiving _ ih => exact ih
  | @receive log found line _ ih =>
      obtain ⟨hqueue, -⟩ := line.channel.receive_eq
      show found.messages ++ _ ++ line.channel.receive.2.queue = _
      rw [List.append_assoc, hqueue, ih]
  | @takeSignal log found line _ ih =>
      obtain ⟨-, -, -, hqueue, -⟩ := line.channel.takeSignal_eq
      show found.messages ++ line.channel.takeSignal.2.queue = _
      rw [hqueue, ih]

/-- A session sends nothing but chunks. -/
theorem isChunk_of_sent? {m : ClientMessage} {s : Session}
    (h : Turn.sent? (s.request terms, event) = some m) : IsChunk m := by
  have hrequest : s.request terms = .send m := by
    generalize s.request terms = request at h ⊢
    unfold Turn.sent? at h
    split at h <;> cases h
    rename_i hturn
    exact (Prod.mk.inj hturn).1
  unfold Session.request at hrequest
  split at hrequest
  · cases hrequest
  · split at hrequest <;> cases hrequest
    exact ⟨_, _, rfl⟩

/-- All messages that a session sends are chunks. -/
theorem Runs.isChunk (h : Runs terms content start log found line) :
    ∀ m ∈ sentMessages log, IsChunk m := by
  induction h with
  | start => exact nofun
  | client _ _ _ _ ih =>
      intro m hm
      rw [Session.sentMessages_snoc, List.mem_append, Option.mem_toList] at hm
      exact hm.elim (ih m) isChunk_of_sent?
  | hangUp _ _ ih | say _ _ _ ih | fallSilent _ ih | receive _ ih | stopReceiving _ ih
  | takeSignal _ ih => exact ih

/-- A step of the client over a broken channel sends nothing and leaves the channel as it is. -/
theorem next?_of_isBroken (hbroken : line.channel.IsBroken)
    (h : line.next? terms content waited = some (event, next)) :
    next.channel = line.channel ∧ Turn.sent? (line.session.request terms, event) = none := by
  unfold next? at h
  cases hrequest : line.session.request terms with
  | nothing =>
      rw [hrequest] at h
      cases h
  | message =>
      simp only [hrequest] at h
      split at h
      · cases h
        exact ⟨rfl, rfl⟩
      · split at h <;> cases h
        exact ⟨rfl, rfl⟩
  | read offset capacity =>
      simp only [hrequest] at h
      cases h
      exact ⟨rfl, rfl⟩
  | room =>
      simp only [hrequest, hbroken.ready?] at h
      cases h
      exact ⟨rfl, rfl⟩
  | send m =>
      obtain ⟨e, hsend⟩ := hbroken.send m
      simp only [hrequest, hsend] at h
      cases h
      exact ⟨rfl, rfl⟩

/-- Signals leave a broken channel broken. -/
theorem isBroken_foldl_signalled (signals : List Session.Signal) {c : Channel} (h : c.IsBroken) :
    (signals.foldl signalled c).IsBroken := by
  induction signals generalizing c with
  | nil => exact h
  | cons signal signals ih =>
      refine ih ?_
      cases signal <;> exact ⟨rfl, .inl rfl⟩

/-- A broken channel stays broken, and nothing is sent over it. -/
theorem Runs.isBroken (hbroken : start.channel.IsBroken)
    (h : Runs terms content start log found line) :
    line.channel.IsBroken ∧ sentMessages log = [] := by
  induction h with
  | start => exact ⟨hbroken, rfl⟩
  | client _ _ _ hnext ih =>
      obtain ⟨hchannel, hsent⟩ := next?_of_isBroken ih.1 hnext
      refine ⟨isBroken_foldl_signalled _ (hchannel ▸ ih.1), ?_⟩
      rw [Session.sentMessages_snoc, ih.2, hsent]
      rfl
  | hangUp _ _ ih => exact ⟨Channel.isBroken_abort _ _, ih.2⟩
  | say _ _ _ ih | fallSilent _ ih => exact ih
  | receive _ ih => exact ⟨ih.1.farSide.1, ih.2⟩
  | stopReceiving _ ih => exact ⟨ih.1.farSide.2.1, ih.2⟩
  | takeSignal _ ih => exact ⟨ih.1.farSide.2.2, ih.2⟩

/-- Whatever happens in a call that was opened over a blank channel, its far side gets nothing, or
first the message that opened it and then chunks. -/
theorem Runs.messages_opened {channel : Channel} {opening : ClientMessage}
    (hblank : channel.IsBlank)
    (h : Runs terms content (opened channel opening) log found line) :
    found.messages ++ line.channel.queue = [] ∨
      ∃ chunks, found.messages ++ line.channel.queue = opening :: chunks ∧
        ∀ m ∈ chunks, IsChunk m := by
  rcases hblank.send opening with hqueue | ⟨hbroken, hsame⟩
  · refine .inr ⟨sentMessages log, ?_, h.isChunk⟩
    rw [h.messages_eq]
    show (channel.send opening).2.queue ++ _ = _
    rw [hqueue]
    rfl
  · have hchannel : (opened channel opening).channel = channel := hsame
    obtain ⟨-, hnothing⟩ := h.isBroken (hchannel.symm ▸ hbroken)
    refine .inl ?_
    rw [h.messages_eq, hchannel, hblank.queue, hnothing]
    rfl

end Line

end MalwareScan
