import MalwareScan.Client.Line
import MalwareScan.Content.Buffer
import MalwareScan.Proofs.Session.Channel
import MalwareScan.Proofs.Session.Serving

/-!
# What the far side learns

A call can be followed by its far side: it gets the queued messages and at most one status. `Runs`
interleaves the steps of the client with those of the far side, and the client may hang up between
any two of its steps. The invariant is `Standing`: as long as the client listens and its session
told the channel nothing, the channel is live; from then on it is over, and what the far side took
of its signal and what it can still take is what belongs to the session's ending. The main theorem
is `far_side_learns_ending`.
-/

namespace MalwareScan

open Session (Turn Path firstEnding sentMessages)
open Wire (ClientMessage ServerMessage Status StatusCode)

/-! ## The statuses of endings -/

/-- The status that a signal gives to a live channel. -/
def Session.Signal.status? : Session.Signal → Option Status
  | halfClose => none
  | abort status => some status

/-- What the far side is told about a session that is gone: nothing if it is complete, and that it
was dropped if the session itself told nothing. -/
def lastStatus (terms : Session.Terms) (log : List Turn) : Option Status :=
  match (firstEnding terms log).elim [] Session.Ending.signals with
  | [] => some Channel.droppedStatus
  | signal :: _ => signal.status?

/-- The code that belongs to an ending, or to a session that did not end. -/
def closingCode : Option Session.Ending → Option StatusCode
  | some (.quit _) => none
  | some (.unknownCommand _) | some (.malformed _) => some .invalidArgument
  | some (.outsideRun _) | some (.unreadable _) => some .aborted
  | some (.late _) => some .deadlineExceeded
  | some (.failed _) | some .closed | none => some .cancelled

variable {terms : Session.Terms} {content : Content} {log : List Turn}

/-- The last status has the code of the ending. -/
theorem code_lastStatus :
    (lastStatus terms log).map (·.code) = closingCode (firstEnding terms log) := by
  unfold lastStatus
  cases firstEnding terms log with
  | none => rfl
  | some ending => cases ending <;> rfl

/-- There is no last status exactly if the session is complete. -/
theorem lastStatus_eq_none_iff :
    lastStatus terms log = none ↔ ∃ result, firstEnding terms log = some (.quit result) := by
  cases hending : firstEnding terms log with
  | none => simp [lastStatus, hending]
  | some ending =>
      cases ending <;> simp [lastStatus, hending, Session.Ending.signals, Session.Signal.status?]

/-- Only a complete session has a result. -/
theorem outcome_eq_ok_iff {ending : Session.Ending} {result : String} :
    ending.outcome = .ok result ↔ ending = .quit result := by
  cases ending <;> simp [Session.Ending.outcome]

/-! ## Calls with their far side -/

namespace Line

/-- What the far side found: its messages and its statuses, in order. -/
structure Found where
  messages : List ClientMessage := []
  statuses : List Status := []

/-- A call whose session has not begun and whose channel is live. -/
structure IsNew (line : Line) : Prop where
  session : line.session = {}
  listening : line.listening = true
  channel : line.channel.IsLive

/-- The call goes from `start` to the last one by these turns of its session, with this found on the
far side. The client hangs up at any time, but only once. -/
inductive Runs (terms : Session.Terms) (content : Content) (start : Line) :
    List Turn → Found → Line → Prop where
  | start : Runs terms content start [] {} start
  | client {log found line event next} (waited) (hrun : Runs terms content start log found line)
      (hlistening : line.listening = true)
      (hnext : line.next? terms content waited = some (event, next)) :
      Runs terms content start (log ++ [(line.session.request terms, event)]) found
        (next.act terms event)
  | hangUp {log found line} (hrun : Runs terms content start log found line)
      (hlistening : line.listening = true) : Runs terms content start log found line.hangUp
  | say {log found line} (item) (hrun : Runs terms content start log found line)
      (hspeaking : line.speaking = true) : Runs terms content start log found (line.say item)
  | fallSilent {log found line} (hrun : Runs terms content start log found line) :
      Runs terms content start log found line.fallSilent
  | receive {log found line} (hrun : Runs terms content start log found line) :
      Runs terms content start log
        { found with messages := found.messages ++ line.channel.receive.1.message?.toList }
        { line with channel := line.channel.receive.2 }
  | stopReceiving {log found line} (hrun : Runs terms content start log found line) :
      Runs terms content start log found { line with channel := line.channel.stopReceiving }
  | takeSignal {log found line} (hrun : Runs terms content start log found line) :
      Runs terms content start log
        { found with statuses := found.statuses ++ line.channel.takeSignal.1.status?.toList }
        { line with channel := line.channel.takeSignal.2 }

/-- What holds at every point of a run. -/
structure Standing (terms : Session.Terms) (start : Line) (log : List Turn) (found : Found)
    (line : Line) : Prop where
  path : Path terms {} log line.session
  messages : found.messages ++ line.channel.queue = start.channel.queue ++ sentMessages log
  channel :
    (line.channel.IsLive ∧ line.listening = true ∧ found.statuses = [] ∧
      (firstEnding terms log).elim [] Session.Ending.signals = []) ∨
    (line.channel.IsOver ∧
      found.statuses ++ line.channel.status?.toList = (lastStatus terms log).toList ∧
      (line.listening = true → (firstEnding terms log).isSome = true))

variable {start line next : Line} {found : Found} {event : Session.Event}
  {waited : Option Duration}

/-- A new call over a channel is live until something happens. -/
theorem isNew_opened (capacity : Nat) (opening : ClientMessage) :
    (opened (.new capacity) opening).IsNew :=
  ⟨rfl, rfl, (Channel.isLive_new capacity).send opening⟩

/-! ## The steps of the client -/

/-- What happens next is awaited by the session, which is open. It changes neither the session nor
the stream nor its signal, and it queues what is sent. -/
theorem next?_eq_some (h : line.next? terms content waited = some (event, next)) :
    (line.session.request terms).awaits event = true ∧ line.session.phase ≠ .done ∧
      next.session = line.session ∧ next.listening = line.listening ∧
      (line.channel.IsLive → next.channel.IsLive) ∧
      next.channel.queue =
        line.channel.queue ++ (Turn.sent? (line.session.request terms, event)).toList := by
  have hopen : line.session.phase ≠ .done := by
    intro hdone
    rw [next?, Session.request_of_done hdone] at h
    cases h
  unfold next? at h
  cases hrequest : line.session.request terms with
  | nothing =>
      rw [hrequest] at h
      cases h
  | message =>
      simp only [hrequest] at h
      split at h
      · rename_i item inbound hinbound
        cases h
        refine ⟨by cases item <;> rfl, hopen, rfl, rfl, id, ?_⟩
        cases item <;> simp [Turn.sent?]
      · split at h
        · cases h
        · cases h
          exact ⟨rfl, hopen, rfl, rfl, id, by simp [Turn.sent?]⟩
  | read offset capacity =>
      simp only [hrequest] at h
      cases h
      exact ⟨rfl, hopen, rfl, rfl, id, by simp [Turn.sent?]⟩
  | room =>
      simp only [hrequest] at h
      split at h
      · rename_i channel hready
        obtain ⟨hisOpen, hsignal, hqueue⟩ := Channel.ready?_eq_some hready
        cases h
        exact ⟨rfl, hopen, rfl, rfl, fun hlive => ⟨hisOpen.trans hlive.isOpen,
          hsignal.trans hlive.signal⟩, by simp [Turn.sent?, hqueue]⟩
      · cases waited with
        | none => cases h
        | some elapsed =>
            cases h
            exact ⟨rfl, hopen, rfl, rfl, id, by simp [Turn.sent?]⟩
  | send m =>
      simp only [hrequest] at h
      split at h
      all_goals
        rename_i hsend
        obtain ⟨hisOpen, hsignal, hqueue⟩ := Channel.send_eq hsend
        cases h
      · exact ⟨rfl, hopen, rfl, rfl, fun hlive => ⟨hisOpen.trans hlive.isOpen,
          hsignal.trans hlive.signal⟩, hqueue⟩
      · exact ⟨rfl, hopen, rfl, rfl, fun hlive => ⟨hisOpen.trans hlive.isOpen,
          hsignal.trans hlive.signal⟩, hqueue⟩

/-- A signal to a live channel ends it with the signal's status. -/
theorem signalled_of_isLive {c : Channel} (h : c.IsLive) (signal : Session.Signal) :
    (signalled c signal).IsOver ∧ (signalled c signal).status? = signal.status? := by
  cases signal with
  | halfClose => exact h.halfClose
  | abort status => exact h.abort status

/-- A signal does not touch the queue. -/
theorem queue_signalled (c : Channel) (signal : Session.Signal) :
    (signalled c signal).queue = c.queue := by
  cases signal <;> rfl

/-- An ending gives at most one signal. -/
theorem signals_eq_nil_or_singleton (ending : Session.Ending) :
    ending.signals = [] ∨ ∃ signal, ending.signals = [signal] := by
  cases ending with
  | failed | closed => exact .inl rfl
  | quit | unknownCommand | outsideRun | malformed | unreadable | late => exact .inr ⟨_, rfl⟩

/-- A step of the client. The channel is live before it, because the session is open, and it is over
after it if the session's ending gives a signal. -/
theorem Standing.client (h : Standing terms start log found line)
    (hlistening : line.listening = true)
    (hnext : line.next? terms content waited = some (event, next)) :
    Standing terms start (log ++ [(line.session.request terms, event)]) found
      (next.act terms event) := by
  obtain ⟨hawaits, hopen, hsession, hlistens, hlives, hqueue⟩ := next?_eq_some hnext
  have hpath : Path terms {} log next.session := hsession ▸ h.path
  have hnone : firstEnding terms log = none := by simpa [hopen] using h.path.concluded.2
  rw [← hsession] at hawaits hopen hqueue ⊢
  rcases h.channel with ⟨hlive, -, hstatuses, -⟩ | ⟨-, -, hsome⟩
  rotate_left
  · -- The channel of a client that listens is over only after an ending.
    rw [hnone] at hsome
    cases hsome hlistening
  have hmove := Session.step_moves hawaits
  have hmessages : found.messages ++ next.channel.queue = start.channel.queue ++
      sentMessages (log ++ [(next.session.request terms, event)]) := by
    rw [hqueue, Session.sentMessages_snoc, ← List.append_assoc, h.messages, List.append_assoc]
  have hfirst : firstEnding terms (log ++ [(next.session.request terms, event)]) =
      event.ending? terms := by
    rw [Session.firstEnding_snoc, hnone, Option.none_or]
  -- Without a signal the channel stays as it is, with one it is over.
  have hquiet (hsignals : (next.session.step terms event).2 = [])
      (hlast : (event.ending? terms).elim [] Session.Ending.signals = []) :
      Standing terms start (log ++ [(next.session.request terms, event)]) found
        (next.act terms event) := by
    have hact : (next.act terms event).channel = next.channel := by simp [act, hsignals]
    refine ⟨hpath.turn hawaits hmove, ?_, .inl ⟨?_, hlistens.trans hlistening, hstatuses, ?_⟩⟩
    · rw [hact, hmessages]
    · rw [hact]
      exact hlives hlive
    · rw [hfirst, hlast]
  rcases hmove.ending_or_open hopen with ⟨ending, hending, -, hsignals⟩ | ⟨hending, -, -, hsignals⟩
  · rcases signals_eq_nil_or_singleton ending with hnil | ⟨signal, hsignal⟩
    · exact hquiet (hsignals.trans hnil) (by rw [hending, Option.elim_some, hnil])
    obtain ⟨hover, hstatus⟩ := signalled_of_isLive (hlives hlive) signal
    have hact : (next.act terms event).channel = signalled next.channel signal := by
      simp [act, hsignals, hsignal]
    have hlast : lastStatus terms (log ++ [(next.session.request terms, event)]) =
        signal.status? := by
      simp [lastStatus, hfirst, hending, hsignal]
    refine ⟨hpath.turn hawaits hmove, ?_, .inr ⟨?_, ?_, fun _ => ?_⟩⟩
    · rw [hact, queue_signalled, hmessages]
    · rw [hact]
      exact hover
    · rw [hact, hstatus, hstatuses, hlast, List.nil_append]
    · rw [hfirst, hending, Option.isSome_some]
  · exact hquiet hsignals (by rw [hending, Option.elim_none])

/-- Hanging up ends a live channel as dropped, and leaves one that is over as it is. -/
theorem Standing.hangUp (h : Standing terms start log found line) :
    Standing terms start log found line.hangUp := by
  refine ⟨h.path, h.messages, .inr ?_⟩
  show line.channel.drop.IsOver ∧ _ ++ line.channel.drop.status?.toList = _ ∧ _
  rcases h.channel with ⟨hlive, -, hstatuses, hsignals⟩ | ⟨hover, hlast, -⟩
  · obtain ⟨hover, hstatus⟩ := hlive.abort Channel.droppedStatus
    refine ⟨hover, ?_, nofun⟩
    rw [Channel.drop, hstatus, hstatuses, lastStatus, hsignals, List.nil_append]
  · rw [Channel.drop, hover.abort_eq]
    exact ⟨hover, hlast, nofun⟩

/-! ## The steps of the far side -/

/-- What the far side does to a channel and finds there: it takes messages and a status away, and
leaves the rest alone. -/
theorem Standing.farSide (h : Standing terms start log found line) (channel : Channel)
    (messages : List ClientMessage) (statuses : List Status)
    (hqueue : messages ++ channel.queue = line.channel.queue)
    (hstatus : statuses ++ channel.status?.toList = line.channel.status?.toList)
    (hisOpen : channel.isOpen = line.channel.isOpen)
    (hreserved : channel.reserved = line.channel.reserved)
    (hsignal : channel.signal = .undecided ↔ line.channel.signal = .undecided) :
    Standing terms start log ⟨found.messages ++ messages, found.statuses ++ statuses⟩
      { line with channel } := by
  refine ⟨h.path, ?_, ?_⟩
  · rw [List.append_assoc, hqueue, h.messages]
  rcases h.channel with ⟨hlive, hlistening, hstatuses, hsignals⟩ | ⟨hover, hlast, hsome⟩
  · -- As long as the signal is undecided, there is no status to take.
    have hnothing : statuses = [] := by
      rw [hlive.status?_eq_none] at hstatus
      exact (List.append_eq_nil_iff.1 hstatus).1
    refine .inl ⟨⟨hisOpen.trans hlive.isOpen, hsignal.2 hlive.signal⟩, hlistening, ?_, hsignals⟩
    show found.statuses ++ statuses = []
    rw [hstatuses, hnothing, List.nil_append]
  · refine .inr ⟨⟨hisOpen.trans hover.isOpen, hreserved.trans hover.reserved,
      fun h => hover.signal (hsignal.1 h)⟩, ?_, hsome⟩
    show found.statuses ++ statuses ++ channel.status?.toList = _
    rw [List.append_assoc, hstatus, hlast]

/-- What holds at the start of a run holds at all its points. -/
theorem Runs.standing (hnew : start.IsNew) (h : Runs terms content start log found line) :
    Standing terms start log found line := by
  induction h with
  | start =>
      refine ⟨?_, by simp [sentMessages], .inl ⟨hnew.channel, hnew.listening, rfl, rfl⟩⟩
      rw [hnew.session]
      exact .start
  | client waited _ hlistening hnext ih => exact ih.client hlistening hnext
  | hangUp _ _ ih => exact ih.hangUp
  | say | fallSilent =>
      rename_i ih
      exact ⟨ih.path, ih.messages, ih.channel⟩
  | @receive log found line _ ih =>
      obtain ⟨hqueue, hisOpen, hreserved, hsignal⟩ := line.channel.receive_eq
      have hstatus : line.channel.receive.2.status? = line.channel.status? := by
        rw [Channel.status?, hsignal, Channel.status?]
      simpa using ih.farSide _ _ [] hqueue (by rw [hstatus, List.nil_append]) hisOpen hreserved
        (by rw [hsignal])
  | @stopReceiving log found line _ ih =>
      simpa using ih.farSide line.channel.stopReceiving [] [] rfl rfl rfl rfl .rfl
  | @takeSignal log found line _ ih =>
      obtain ⟨hstatus, hisOpen, hreserved, hqueue, hsignal⟩ := line.channel.takeSignal_eq
      simpa using ih.farSide _ [] _ (by rw [hqueue, List.nil_append]) hstatus hisOpen hreserved
        hsignal

/-! ## The end of a call -/

/-- Once the client has hung up, at whatever point of the call, and whatever the far side did and
does in between:

* the far side has got what was queued at the start and what the session sent, or it will get it
  from the queue, and then the stream ends;
* its signal is decided, and it has taken or can take one status, or none, with the code that
  belongs to the session's ending;
* there is no status exactly if the session ended with the scanner's result, which is its outcome.
  -/
theorem far_side_learns_ending (terms : Session.Terms) (content : Content) (start : Line)
    (hnew : start.IsNew) :
    ∀ log found line, Runs terms content start log found line → line.listening = false →
      found.messages ++ line.channel.queue = start.channel.queue ++ sentMessages log ∧
      line.channel.EndsAfter line.channel.queue ∧
      line.channel.signal ≠ .undecided ∧
      (found.statuses ++ line.channel.status?.toList).map (·.code) =
        (closingCode (firstEnding terms log)).toList ∧
      (found.statuses ++ line.channel.status?.toList = [] ↔
        ∃ result, firstEnding terms log = some (.quit result)) ∧
      (found.statuses ++ line.channel.status?.toList = [] ↔
        ∃ result, line.session.outcome = some (.ok result)) := by
  intro log found line hrun hgone
  have hstanding := hrun.standing hnew
  rcases hstanding.channel with ⟨-, hlistening, -⟩ | ⟨hover, hlast, -⟩
  · rw [hgone] at hlistening
    cases hlistening
  have hempty : found.statuses ++ line.channel.status?.toList = [] ↔
      ∃ result, firstEnding terms log = some (.quit result) := by
    rw [hlast, ← lastStatus_eq_none_iff, Option.toList_eq_nil_iff]
  refine ⟨hstanding.messages, hover.endsAfter, hover.signal, ?_, hempty, hempty.trans ?_⟩
  · rw [hlast, ← code_lastStatus]
    cases lastStatus terms log <;> rfl
  · rw [hstanding.path.concluded.1]
    simp [outcome_eq_ok_iff]

/-- A client that hangs up after its first chunk, over a channel for one message. -/
theorem far_side_learns_hangUp :
    ∃ log found line, Runs ⟨3, ⟨0⟩⟩ (Buffer.new [1, 2, 3] "file" false).content
        (opened (.new 1) (.ofChunk 0 [])) log found line ∧ line.listening = false ∧
      found.messages = [.ofChunk 0 []] ∧ sentMessages log = [.ofChunk 1 [2, 3]] ∧
      line.channel.EndsAfter [.ofChunk 1 [2, 3]] ∧
      (found.statuses ++ line.channel.status?.toList).map (·.code) = [.cancelled] := by
  have hstart : Runs ⟨3, ⟨0⟩⟩ (Buffer.new [1, 2, 3] "file" false).content
      (opened (.new 1) (.ofChunk 0 [])) [] {} (opened (.new 1) (.ofChunk 0 [])) := .start
  have hread := ((hstart.say (.ok (.retr 1 2)) rfl).client none rfl rfl).client none rfl rfl
  have hsent := (hread.receive.client none rfl rfl).client none rfl rfl
  have hrun := (hsent.hangUp rfl).takeSignal
  obtain ⟨-, hends, -, hcodes, -⟩ := far_side_learns_ending ⟨3, ⟨0⟩⟩
    (Buffer.new [1, 2, 3] "file" false).content (opened (.new 1) (.ofChunk 0 []))
    (isNew_opened 1 (.ofChunk 0 [])) _ _ _ hrun rfl
  exact ⟨_, _, _, hrun, rfl, by decide, by decide, hends, hcodes⟩

end Line

end MalwareScan
