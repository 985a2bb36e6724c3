import MalwareScan.Session.Run

/-!
# The moves of a session

`Session.step` is total: an event that the session does not wait for changes nothing. This module
says what it does with the events that can really happen, those that `Request.awaits` accepts.
`Moves` lists the cases, one constructor each, and `step_moves` is the only place where `step` is
unfolded.

`Ending` lists what ends a session. Which ending an event is depends on the event alone, not on
the session that meets it.
-/

namespace MalwareScan.Session

open Wire (ByteRange Command RangeFault ServerMessage Stage Status)

/-! ## Endings -/

/-- What ends a session: the scanner's last message, a message that breaks the rules, content that
cannot be read, a wait that takes too long, or the end of the call. -/
inductive Ending where
  | quit (result : String)
  | unknownCommand (number : Int32)
  | outsideRun (stage : Int32)
  | malformed (fault : RangeFault)
  | unreadable (e : Error)
  | late (elapsed : Duration)
  | failed (status : Status)
  | closed

namespace Ending

/-- The outcome of a session with this ending. -/
def outcome : Ending → Outcome String
  | quit result => .ok result
  | unknownCommand number => .error (.protocol ("unknown command " ++ toString number))
  | outsideRun stage => .error (.protocol ("RETR received in stage " ++ toString stage))
  | malformed fault => .error (.protocol fault.message)
  | unreadable e => .error e
  | late elapsed => .error (.deadlineExceeded elapsed)
  | failed status => .error (statusError status)
  | closed => .error (.protocol "stream closed before QUIT")

/-- What the session tells its stream at this ending. The end of the call is no news to it. -/
def signals : Ending → List Signal
  | quit _ => [.halfClose]
  | unknownCommand number =>
    [.abort ⟨.invalidArgument, "unknown command " ++ toString number⟩]
  | outsideRun _ => [.abort ⟨.aborted, "RETR outside RUN stage"⟩]
  | malformed fault => [.abort ⟨.invalidArgument, fault.message⟩]
  | unreadable _ => [.abort ⟨.aborted, "content read failed"⟩]
  | late _ => [.abort ⟨.deadlineExceeded, "scan deadline exceeded"⟩]
  | failed _ | closed => []

/-- The ending that a message of the scanner is. -/
def ofMessage? (m : ServerMessage) : Option Ending :=
  if m.command = Command.quit.number then some (quit m.result)
  else if m.command ≠ Command.retr.number then some (unknownCommand m.command)
  else if m.stage ≠ Stage.run.number then some (outsideRun m.stage)
  else
    match m.ranges with
    | .error fault => some (malformed fault)
    | .ok _ => none

end Ending

/-- The ending that an event is to any session that waits for it. -/
def Event.ending? (terms : Terms) : Event → Option Ending
  | .message m => Ending.ofMessage? m
  | .failed status => some (.failed status)
  | .closed => some .closed
  | .read result =>
    match result.outcome with
    | .error e => some (.unreadable e)
    | .ok _ => none
  | .noRoom elapsed => if terms.timeout.nanos < elapsed.nanos then some (.late elapsed) else none
  | .room | .sent | .notSent => none

/-! ## Events that can happen -/

/-- The event comes from the scanner's stream; it may reach a session that is over. -/
def Event.isCall : Event → Bool
  | .message _ | .failed _ | .closed => true
  | _ => false

/-- The event can happen to a session that waits in this way. -/
def Request.awaits : Request → Event → Bool
  | .message, event | .nothing, event => event.isCall
  | .read _ _, .read _ => true
  | .room, .room | .room, .noRoom _ => true
  | .send _, .sent | .send _, .notSent => true
  | _, _ => false

/-- The message is a well-formed request for these ranges. -/
structure Asks (m : ServerMessage) (ranges : List ByteRange) : Prop where
  command : m.command = Command.retr.number
  stage : m.stage = Stage.run.number
  ranges : m.ranges = .ok ranges

/-- The message ends a session that waits for it. -/
inductive Ends (m : ServerMessage) : Ending → Prop where
  | quit (hcommand : m.command = Command.quit.number) : Ends m (.quit m.result)
  | unknownCommand (hquit : m.command ≠ Command.quit.number)
      (hretr : m.command ≠ Command.retr.number) : Ends m (.unknownCommand m.command)
  | outsideRun (hcommand : m.command = Command.retr.number)
      (hstage : m.stage ≠ Stage.run.number) : Ends m (.outsideRun m.stage)
  | malformed (fault) (hcommand : m.command = Command.retr.number)
      (hstage : m.stage = Stage.run.number) (hranges : m.ranges = .error fault) :
      Ends m (.malformed fault)

/-- A message either is an ending or asks for ranges. -/
theorem ends_or_asks (m : ServerMessage) :
    (∃ ending, Ending.ofMessage? m = some ending ∧ Ends m ending) ∨
      (Ending.ofMessage? m = none ∧ ∃ ranges, Asks m ranges) := by
  unfold Ending.ofMessage?
  by_cases hquit : m.command = Command.quit.number
  · exact .inl ⟨_, if_pos hquit, .quit hquit⟩
  rw [if_neg hquit]
  by_cases hretr : m.command = Command.retr.number
  · rw [if_neg (not_not_intro hretr)]
    by_cases hstage : m.stage = Stage.run.number
    · rw [if_neg (not_not_intro hstage)]
      cases hranges : m.ranges with
      | error fault => exact .inl ⟨_, rfl, .malformed fault hretr hstage hranges⟩
      | ok ranges => exact .inr ⟨rfl, ranges, hretr, hstage, hranges⟩
    · exact .inl ⟨_, if_pos hstage, .outsideRun hretr hstage⟩
  · exact .inl ⟨_, if_pos hretr, .unknownCommand hquit hretr⟩

/-- Why a message is an ending. -/
theorem ends_of_ofMessage? {m : ServerMessage} {ending : Ending}
    (h : Ending.ofMessage? m = some ending) : Ends m ending := by
  rcases ends_or_asks m with ⟨_, hsome, hends⟩ | ⟨hnone, -⟩
  · rw [h] at hsome
    cases hsome
    exact hends
  · rw [h] at hnone
    cases hnone

/-- A message that ends no session is a request. -/
theorem asks_of_ofMessage? {m : ServerMessage} (h : Ending.ofMessage? m = none) :
    ∃ ranges, Asks m ranges := by
  rcases ends_or_asks m with ⟨_, hsome, -⟩ | ⟨-, hasks⟩
  · rw [h] at hsome
    cases hsome
  · exact hasks

/-- A request ends no session. -/
theorem Asks.ofMessage? {m : ServerMessage} {ranges : List ByteRange} (h : Asks m ranges) :
    Ending.ofMessage? m = none := by
  have hquit : Command.retr.number ≠ Command.quit.number := by decide
  simp [Ending.ofMessage?, h.command, h.stage, h.ranges, hquit]

/-- Only a read that failed makes content unreadable. -/
theorem Event.read_of_unreadable {terms : Terms} {event : Event} {e : Error}
    (h : event.ending? terms = some (.unreadable e)) :
    ∃ result, event = .read result ∧ result.outcome = .error e := by
  cases event with
  | message m => cases ends_of_ofMessage? h
  | read result =>
      cases hread : result.outcome with
      | ok n => simp [ending?, hread] at h
      | error fault =>
          simp only [ending?, hread, Option.some.injEq, Ending.unreadable.injEq] at h
          exact ⟨result, rfl, h ▸ hread⟩
  | noRoom elapsed =>
      simp only [ending?] at h
      split at h <;> cases h
  | failed | closed | room | sent | notSent => cases h

/-! ## Cases of a step -/

/-- What an awaited event does to a session, with the signals that the session gives. -/
inductive Moves (terms : Terms) (s : Session) : Event → Session → List Signal → Prop where
  | ignored (event) (hdone : s.phase = .done) : Moves terms s event s []
  | ends (event ending) (hopen : s.phase ≠ .done)
      (hawaits : (s.request terms).awaits event = true)
      (hending : event.ending? terms = some ending) :
      Moves terms s event (s.finish ending.outcome) ending.signals
  | asked (m ranges) (hopen : s.phase ≠ .done) (htask : s.task = .idle) (hasks : Asks m ranges) :
      Moves terms s (.message m) { s with phase := .running, task := .serve ranges } []
  | read (range later result n) (hopen : s.phase ≠ .done) (htask : s.task = .read range later)
      (hread : result.outcome = .ok n) :
      Moves terms s (.read result)
        { s with
          stats := { fetches := s.stats.fetches + 1, bytes := s.stats.bytes + n }
          task := .room range (chunkOf terms range result n) later } []
  | room (range chunk later) (hopen : s.phase ≠ .done) (htask : s.task = .room range chunk later) :
      Moves terms s .room { s with task := .send range chunk later } []
  | stalled (range chunk later elapsed) (hopen : s.phase ≠ .done)
      (htask : s.task = .room range chunk later) (hintime : elapsed.nanos ≤ terms.timeout.nanos) :
      Moves terms s (.noRoom elapsed) s []
  | sent (range chunk later) (hopen : s.phase ≠ .done) (htask : s.task = .send range chunk later) :
      Moves terms s .sent { s with task := .serve later } []
  | notSent (range chunk later) (hopen : s.phase ≠ .done)
      (htask : s.task = .send range chunk later) :
      Moves terms s .notSent { s with task := .idle } []

variable {terms : Terms} {s t : Session} {event : Event}

/-- A message that is an ending finishes the session. -/
theorem handle_of_ending {m : ServerMessage} {ending : Ending}
    (h : Ending.ofMessage? m = some ending) :
    s.handle m = (s.finish ending.outcome, ending.signals) := by
  cases ends_of_ofMessage? h with
  | quit hcommand =>
      simp [handle, hcommand, Command.ofNumber?_number, Ending.outcome, Ending.signals]
  | unknownCommand hquit hretr =>
      have hnone : Command.ofNumber? m.command = none := by
        simp only [Command.number, ne_eq] at hquit hretr
        simp [Command.ofNumber?, hquit, hretr]
      simp [handle, hnone, violation, giveUp, Ending.outcome, Ending.signals]
  | outsideRun hcommand hstage =>
      simp [handle, hcommand, Command.ofNumber?_number, retrieve, hstage, giveUp, Ending.outcome,
        Ending.signals]
  | malformed fault hcommand hstage hranges =>
      simp [handle, hcommand, Command.ofNumber?_number, retrieve, hstage, hranges, violation,
        giveUp, Ending.outcome, Ending.signals]

/-- A request starts the serving of its ranges. -/
theorem handle_of_asks {m : ServerMessage} {ranges : List ByteRange} (h : Asks m ranges) :
    s.handle m = ({ s with phase := .running, task := .serve ranges }, []) := by
  simp [handle, h.command, Command.ofNumber?_number, retrieve, h.stage, h.ranges]

/-- What a session that is not over waits for follows its task. -/
theorem request_of_open (h : s.phase ≠ .done) :
    s.request terms =
      match s.task with
      | .idle => .message
      | .read range _ => .read range.start (capacity terms range)
      | .room _ _ _ => .room
      | .send range chunk _ => .send (.ofChunk range.offset chunk) := by
  have hnot : s.isDone = false := by simp [isDone, h]
  cases htask : s.task <;> simp [request, hnot, htask]

/-- A session that is over waits for nothing. -/
theorem request_of_done (h : s.phase = .done) : s.request terms = .nothing := by
  simp [request, isDone, h]

/-- Without a task an open session waits for the scanner. -/
theorem request_of_idle (hopen : s.phase ≠ .done) (htask : s.task = .idle) :
    s.request terms = .message := by
  rw [request_of_open hopen, htask]

section Tasks

variable {range : ByteRange} {chunk : Bytes} {later : List ByteRange}

/-- Before a chunk it waits for the content. -/
theorem request_of_read (hopen : s.phase ≠ .done) (htask : s.task = .read range later) :
    s.request terms = .read range.start (capacity terms range) := by
  rw [request_of_open hopen, htask]

/-- With a chunk it waits for room. -/
theorem request_of_room (hopen : s.phase ≠ .done) (htask : s.task = .room range chunk later) :
    s.request terms = .room := by
  rw [request_of_open hopen, htask]

/-- With a chunk and room it sends. -/
theorem request_of_send (hopen : s.phase ≠ .done) (htask : s.task = .send range chunk later) :
    s.request terms = .send (.ofChunk range.offset chunk) := by
  rw [request_of_open hopen, htask]

end Tasks

/-- Every awaited event is one of the listed moves. -/
theorem step_moves (h : (s.request terms).awaits event = true) :
    s.Moves terms event (s.step terms event).1 (s.step terms event).2 := by
  by_cases hdone : s.phase = .done
  · rw [step_of_isDone (by simp [isDone, hdone])]
    exact .ignored event hdone
  -- The event fits the task, so each task leaves one or two kinds of events.
  have hawaits := h
  rw [request_of_open hdone] at h
  have hnot : s.isDone = false := by simp [isDone, hdone]
  cases htask : s.task with
  | idle =>
      cases event with
      | message m =>
          simp only [step, hnot, htask]
          cases hending : Ending.ofMessage? m with
          | some ending =>
              rw [handle_of_ending hending]
              exact .ends _ _ hdone hawaits hending
          | none =>
              obtain ⟨ranges, hasks⟩ := asks_of_ofMessage? hending
              rw [handle_of_asks hasks]
              exact .asked _ _ hdone htask hasks
      | failed status =>
          simp only [step, hnot, htask]
          exact .ends _ (.failed status) hdone hawaits rfl
      | closed =>
          simp only [step, hnot, htask]
          exact .ends _ .closed hdone hawaits rfl
      | read | room | noRoom | sent | notSent => simp [htask, Request.awaits, Event.isCall] at h
  | read range later =>
      cases event with
      | read result =>
          simp only [step, hnot, htask]
          cases hread : result.outcome with
          | error e => exact .ends _ (.unreadable e) hdone hawaits (by simp [Event.ending?, hread])
          | ok n => exact .read _ _ _ _ hdone htask hread
      | message | failed | closed | room | noRoom | sent | notSent =>
          simp [htask, Request.awaits] at h
  | room range chunk later =>
      cases event with
      | room =>
          simp only [step, hnot, htask]
          exact .room _ _ _ hdone htask
      | noRoom elapsed =>
          simp only [step, hnot, htask]
          by_cases hlate : terms.timeout.nanos < elapsed.nanos
          · simp only [hlate, if_true]
            exact .ends _ (.late elapsed) hdone hawaits (by simp [Event.ending?, hlate])
          · simp only [hlate, if_false]
            exact .stalled _ _ _ _ hdone htask (Nat.le_of_not_lt hlate)
      | message | failed | closed | read | sent | notSent => simp [htask, Request.awaits] at h
  | send range chunk later =>
      cases event with
      | sent =>
          simp only [step, hnot, htask]
          exact .sent _ _ _ hdone htask
      | notSent =>
          simp only [step, hnot, htask]
          exact .notSent _ _ _ hdone htask
      | message | failed | closed | read | room | noRoom => simp [htask, Request.awaits] at h

/-! ## Consequences -/

variable {signals : List Signal}

/-- A session that is over does not move. -/
theorem Moves.eq_of_done (h : s.Moves terms event t signals) (hdone : s.phase = .done) :
    t = s ∧ signals = [] := by
  cases h with
  | ignored => exact ⟨rfl, rfl⟩
  | stalled => exact ⟨rfl, rfl⟩
  | ends _ _ hopen | asked _ _ hopen | read _ _ _ _ hopen | room _ _ _ hopen | sent _ _ _ hopen
  | notSent _ _ _ hopen => exact absurd hdone hopen

/-- A move of an open session either is an ending and finishes it, or it leaves the session open and
gives no signal. -/
theorem Moves.ending_or_open (h : s.Moves terms event t signals) (hopen : s.phase ≠ .done) :
    (∃ ending, event.ending? terms = some ending ∧ t = s.finish ending.outcome ∧
      signals = ending.signals) ∨
    (event.ending? terms = none ∧ t.phase ≠ .done ∧ t.outcome = s.outcome ∧ signals = []) := by
  cases h with
  | ignored _ hdone => exact absurd hdone hopen
  | ends _ ending _ _ hending => exact .inl ⟨ending, hending, rfl, rfl⟩
  | asked m ranges _ _ hasks => exact .inr ⟨hasks.ofMessage?, by simp, rfl, rfl⟩
  | read _ _ result n _ _ hread => exact .inr ⟨by simp [Event.ending?, hread], hopen, rfl, rfl⟩
  | stalled _ _ _ elapsed _ _ hintime =>
      exact .inr ⟨by simp [Event.ending?, Nat.not_lt.2 hintime], hopen, rfl, rfl⟩
  | room | sent | notSent => exact .inr ⟨rfl, hopen, rfl, rfl⟩

/-- A session moves in one way only. -/
theorem Moves.step_eq (h : s.Moves terms event t signals) :
    s.step terms event = (t, signals) := by
  cases h with
  | ignored _ hdone => exact step_of_isDone (by simp [isDone, hdone]) event
  | ends _ ending hopen hawaits hending =>
      -- The step is an ending too, and there is one ending to an event.
      obtain ⟨same, hsame, hfinish, hsignals⟩ | ⟨hnone, -⟩ :=
        (step_moves hawaits).ending_or_open hopen
      · rw [hending] at hsame
        cases hsame
        exact Prod.ext hfinish hsignals
      · rw [hending] at hnone
        cases hnone
  | asked m ranges hopen htask hasks =>
      simp [step, isDone, hopen, htask, handle_of_asks hasks]
  | read range later result n hopen htask hread => simp [step, isDone, hopen, htask, hread]
  | stalled range chunk later elapsed hopen htask hintime =>
      simp [step, isDone, hopen, htask, Nat.not_lt.2 hintime]
  | room _ _ _ hopen htask | sent _ _ _ hopen htask | notSent _ _ _ hopen htask =>
      simp [step, isDone, hopen, htask]

end MalwareScan.Session
