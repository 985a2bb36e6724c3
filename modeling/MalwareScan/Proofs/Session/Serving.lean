import MalwareScan.Proofs.Content.Reading
import MalwareScan.Proofs.Session.Budget
import MalwareScan.Proofs.Session.Outcome
import MalwareScan.Proofs.Wire.Ranges

/-!
# Ranges and chunks

What a session sends are the answers to the ranges that it was asked for, in order. `requested` and
`sentMessages` read both off a run. Each move keeps a balance: the ranges that are asked for are
answered or held by the next task (`Moves.answers`), and what was read is sent or accounted for
(`Moves.held_eq`). The main theorem is `chunks_answer_requests`.
-/

namespace MalwareScan

open Wire (ByteRange ClientMessage Command ServerMessage Stage)

namespace Surroundings

variable {σ : Type} (around : Surroundings σ)

/-- The surroundings read the content `data`: a read may fail, but what it gives is right. What it
leaves in the rest of the buffer does not matter. -/
structure Serves (length : UInt64) (data : Bytes) : Prop where
  length_eq : length.toNat = data.length
  read : ∀ world offset capacity n, (around.read world offset capacity).1.outcome = .ok n →
    n = readableLength length offset capacity ∧
      (around.read world offset capacity).1.front.take n = data.slice offset.toNat n

/-- A message that could not be sent leaves the surroundings broken. In broken surroundings no
message can be sent, and they stay broken, whatever else happens. -/
structure Breaks (broken : σ → Prop) : Prop where
  unsent : ∀ world m, (around.send world m).1 = false → broken (around.send world m).2
  send : ∀ world m, broken world → (around.send world m).1 = false
  read : ∀ world offset capacity, broken world → broken (around.read world offset capacity).2
  waitForRoom : ∀ world, broken world → broken (around.waitForRoom world).2
  signal : ∀ world signal, broken world → broken (around.signal world signal)

/-- Once a message could not be sent, none can be sent any more. -/
def FailsForGood : Prop :=
  ∃ broken, around.Breaks broken

end Surroundings

/-! ## Answers and tasks -/

/-- The message that answers a range: the bytes of the content from its offset on, as many as it
asks for and as there are. -/
def answerTo (data : Bytes) (range : ByteRange) : ClientMessage :=
  .ofChunk range.offset (data.slice range.offset.toInt.toNat range.length.toInt.toNat)

namespace Task

/-- The ranges that a task still has to answer. -/
def ranges : Task → List ByteRange
  | idle => []
  | read range later | room range _ later | send range _ later => range :: later

/-- How many reads a task has made whose bytes were not sent yet. -/
def held : Task → Nat
  | idle | read _ _ => 0
  | room _ _ _ | send _ _ _ => 1

section

variable (range : ByteRange) (chunk : Bytes) (later : List ByteRange)

@[simp] theorem ranges_idle : idle.ranges = [] := rfl
@[simp] theorem ranges_read : (read range later).ranges = range :: later := rfl
@[simp] theorem ranges_room : (room range chunk later).ranges = range :: later := rfl
@[simp] theorem ranges_send : (send range chunk later).ranges = range :: later := rfl
@[simp] theorem held_idle : idle.held = 0 := rfl
@[simp] theorem held_read : (read range later).held = 0 := rfl
@[simp] theorem held_room : (room range chunk later).held = 1 := rfl
@[simp] theorem held_send : (send range chunk later).held = 1 := rfl

end

@[simp] theorem ranges_serve (ranges : List ByteRange) : (serve ranges).ranges = ranges := by
  cases ranges <;> rfl

@[simp] theorem held_serve (ranges : List ByteRange) : (serve ranges).held = 0 := by
  cases ranges <;> rfl

/-- The ranges of a task are valid, and its chunk is what answers its range. -/
def Sound (data : Bytes) : Task → Prop
  | idle => True
  | read range later => ∀ r ∈ range :: later, r.isValid = true
  | room range chunk later | send range chunk later =>
    (∀ r ∈ range :: later, r.isValid = true) ∧ .ofChunk range.offset chunk = answerTo data range

/-- Serving valid ranges is a sound task. -/
theorem sound_serve {data : Bytes} {ranges : List ByteRange}
    (h : ∀ range ∈ ranges, range.isValid = true) : (serve ranges).Sound data := by
  cases ranges with
  | nil => trivial
  | cons range later => exact h

end Task

namespace Session

/-! ## What a run asks for and sends -/

/-- The ranges of a message, if it is a well-formed request. -/
def requestedBy (m : ServerMessage) : List ByteRange :=
  if m.command = Command.retr.number ∧ m.stage = Stage.run.number then
    match m.ranges with
    | .ok ranges => ranges
    | .error _ => []
  else []

/-- The ranges of one turn. A session that is over does not look at messages. -/
def Turn.requested : Turn → List ByteRange
  | (.message, .message m) => requestedBy m
  | _ => []

/-- The message that was sent in a turn. -/
def Turn.sent? : Turn → Option ClientMessage
  | (.send m, .sent) => some m
  | _ => none

/-- The number of bytes that a successful read gave. -/
def Turn.read? : Turn → Option Nat
  | (.read _ _, .read result) => result.outcome.toOption
  | _ => none

/-- A read failed. -/
def Turn.isUnread : Turn → Bool
  | (.read _ _, .read result) => result.outcome.toOption.isNone
  | _ => false

/-- A wait for room took too long. -/
def Turn.isLate (terms : Terms) : Turn → Bool
  | (.room, .noRoom elapsed) => terms.timeout.nanos < elapsed.nanos
  | _ => false

/-- A message could not be sent. -/
def Turn.isUnsent : Turn → Bool
  | (.send _, .notSent) => true
  | _ => false

/-- The turn keeps a range from being answered. -/
def Turn.disturbs (terms : Terms) (turn : Turn) : Bool :=
  turn.isUnread || turn.isLate terms || turn.isUnsent

/-- All ranges that were asked for in a run, in order. -/
def requested (log : List Turn) : List ByteRange := log.flatMap Turn.requested

/-- All messages that were sent in a run, in order. -/
def sentMessages (log : List Turn) : List ClientMessage := log.filterMap Turn.sent?

/-- The numbers of bytes of all successful reads. -/
def readLengths (log : List Turn) : List Nat := log.filterMap Turn.read?

/-- How many bytes all successful reads gave together. -/
def bytesRead (log : List Turn) : Nat := (readLengths log).foldl (· + ·) 0

/-- How many messages could not be sent. -/
def unsent (log : List Turn) : Nat := log.countP Turn.isUnsent

/-- The ending is that of a session that waited too long for room. -/
def Ending.isLate : Ending → Bool
  | late _ => true
  | _ => false

/-- The session ended because it waited too long for room. -/
def endedLate (terms : Terms) (log : List Turn) : Bool :=
  (firstEnding terms log).any Ending.isLate

variable {σ : Type} {terms : Terms} {around : Surroundings σ} {data : Bytes} {s t : Session}
  {world w : σ} {event : Event} {signals : List Signal} {log : List Turn}

@[simp] theorem requested_snoc (log : List Turn) (turn : Turn) :
    requested (log ++ [turn]) = requested log ++ turn.requested := by
  simp [requested]

@[simp] theorem sentMessages_snoc (log : List Turn) (turn : Turn) :
    sentMessages (log ++ [turn]) = sentMessages log ++ turn.sent?.toList := by
  cases h : turn.sent? <;> simp [sentMessages, h]

@[simp] theorem readLengths_snoc (log : List Turn) (turn : Turn) :
    readLengths (log ++ [turn]) = readLengths log ++ turn.read?.toList := by
  cases h : turn.read? <;> simp [readLengths, h]

@[simp] theorem bytesRead_snoc (log : List Turn) (turn : Turn) :
    bytesRead (log ++ [turn]) = bytesRead log + turn.read?.getD 0 := by
  cases h : turn.read? <;> simp [bytesRead, h]

@[simp] theorem unsent_snoc (log : List Turn) (turn : Turn) :
    unsent (log ++ [turn]) = unsent log + if turn.isUnsent then 1 else 0 := by
  simp [unsent, List.countP_append, List.countP_cons]

/-- What is requested is what a well-formed request asks for. -/
theorem Asks.requestedBy {m : ServerMessage} {ranges : List ByteRange} (h : Asks m ranges) :
    requestedBy m = ranges := by
  simp [Session.requestedBy, h.command, h.stage, h.ranges]

/-- A message that ends the session requests nothing. -/
theorem requestedBy_of_ending {m : ServerMessage} {ending : Ending}
    (h : Ending.ofMessage? m = some ending) : requestedBy m = [] := by
  have hquit : Command.quit.number ≠ Command.retr.number := by decide
  unfold requestedBy
  cases ends_of_ofMessage? h with
  | quit hcommand => rw [if_neg fun hm => hquit (hcommand.symm.trans hm.1)]
  | unknownCommand _ hretr => rw [if_neg fun hm => hretr hm.1]
  | outsideRun _ hstage => rw [if_neg fun hm => hstage hm.2]
  | malformed fault hcommand hstage hranges => rw [if_pos ⟨hcommand, hstage⟩, hranges]

/-- What a session cuts out of its buffer after a good read of a valid range answers the range. -/
theorem ofChunk_chunkOf {range : ByteRange} {result : Read} {n : Nat}
    (hlength : terms.length.toNat = data.length) (hvalid : range.isValid = true)
    (hn : n = readableLength terms.length range.start (capacity terms range))
    (hfront : result.front.take n = data.slice range.start.toNat n) :
    ClientMessage.ofChunk range.offset (chunkOf terms range result n) = answerTo data range := by
  have hn' : n = capacity terms range := by rw [hn, capacity, readableLength_readableLength]
  have hlen : n ≤ result.front.length := by
    have htake : (result.front.take n).length = n := by
      rw [hfront, hn', capacity, length_slice_readableLength hlength]
    rw [List.length_take] at htake
    omega
  have hchunk : chunkOf terms range result n = result.front.take n := by
    rw [chunkOf, Read.buffer, Bytes.overwrite, List.take_append_of_le_length hlen]
  rw [hchunk, hfront, hn', capacity, slice_readableLength hlength, ByteRange.start_toNat hvalid,
    ByteRange.size_toNat hvalid, answerTo]

/-! ## What a move keeps -/

/-- A turn that ends the session asks for nothing, sends nothing and gives no bytes. -/
theorem turn_of_ending {ending : Ending} (request : Request)
    (h : event.ending? terms = some ending) :
    Turn.requested (request, event) = [] ∧ Turn.sent? (request, event) = none ∧
      Turn.read? (request, event) = none ∧ Turn.isUnsent (request, event) = false := by
  cases event with
  | message m =>
      refine ⟨?_, by cases request <;> rfl, by cases request <;> rfl, by cases request <;> rfl⟩
      cases request <;> simp [Turn.requested, requestedBy_of_ending h]
  | read result =>
      refine ⟨by cases request <;> rfl, by cases request <;> rfl, ?_, by cases request <;> rfl⟩
      cases hread : result.outcome with
      | ok n => simp [Event.ending?, hread] at h
      | error e => cases request <;> simp [Turn.read?, hread, Except.toOption]
  | failed | closed | noRoom => cases request <;> exact ⟨rfl, rfl, rfl, rfl⟩
  | room | sent | notSent => cases h

/-- A call of the scanner sends nothing. -/
theorem turn_of_isCall (request : Request) (h : event.isCall = true) :
    Turn.sent? (request, event) = none ∧ Turn.isUnsent (request, event) = false := by
  cases event with
  | message | failed | closed => cases request <;> exact ⟨rfl, rfl⟩
  | read | room | noRoom | sent | notSent => cases h

/-- A message does not make a session late. -/
theorem isLate_of_ofMessage? {m : ServerMessage} {ending : Ending}
    (h : Ending.ofMessage? m = some ending) : ending.isLate = false := by
  cases ends_of_ofMessage? h <;> rfl

/-- Where an open session can be when it ends: without a task, before a chunk that cannot be read,
or with a chunk for which there is no room in time. -/
theorem task_of_ending {ending : Ending} (hopen : s.phase ≠ .done)
    (hawaits : (s.request terms).awaits event = true) (h : event.ending? terms = some ending) :
    (s.task = .idle ∧ ending.isLate = false) ∨
      (∃ range later, s.task = .read range later ∧ ending.isLate = false ∧
        Turn.isUnread (s.request terms, event) = true) ∨
      ∃ range chunk later, s.task = .room range chunk later ∧ ending.isLate = true ∧
        Turn.isLate terms (s.request terms, event) = true := by
  rw [request_of_open hopen] at hawaits ⊢
  cases event with
  | message m =>
      cases htask : s.task <;> simp [htask, Request.awaits] at hawaits
      exact .inl ⟨rfl, isLate_of_ofMessage? h⟩
  | failed status =>
      cases htask : s.task <;> simp [htask, Request.awaits] at hawaits
      cases h
      exact .inl ⟨rfl, rfl⟩
  | closed =>
      cases htask : s.task <;> simp [htask, Request.awaits] at hawaits
      cases h
      exact .inl ⟨rfl, rfl⟩
  | read result =>
      cases htask : s.task <;> simp [htask, Request.awaits, Event.isCall] at hawaits
      cases hread : result.outcome with
      | ok n => simp [Event.ending?, hread] at h
      | error e =>
          simp only [Event.ending?, hread, Option.some.injEq] at h
          subst h
          exact .inr (.inl ⟨_, _, rfl, rfl, by simp [Turn.isUnread, hread, Except.toOption]⟩)
  | noRoom elapsed =>
      cases htask : s.task <;> simp [htask, Request.awaits, Event.isCall] at hawaits
      simp only [Event.ending?, Option.ite_none_right_eq_some, Option.some.injEq] at h
      obtain ⟨hlate, rfl⟩ := h
      exact .inr (.inr ⟨_, _, _, rfl, rfl, by simpa [Turn.isLate] using hlate⟩)
  | room | sent | notSent => cases h

/-- A session counts its successful reads and their bytes. -/
theorem Moves.stats_eq (h : s.Moves terms event t signals) :
    t.stats.fetches = s.stats.fetches + (Turn.read? (s.request terms, event)).toList.length ∧
      t.stats.bytes = s.stats.bytes + (Turn.read? (s.request terms, event)).getD 0 := by
  cases h with
  | ignored _ hdone => simp [request_of_done hdone, Turn.read?]
  | ends _ ending hopen hawaits hending =>
      rw [(turn_of_ending (s.request terms) hending).2.2.1]
      exact ⟨rfl, rfl⟩
  | asked m ranges hopen htask => simp [request_of_idle hopen htask, Turn.read?]
  | read range later result n hopen htask hread =>
      simp [request_of_read hopen htask, Turn.read?, hread, Except.toOption]
  | room range chunk later hopen htask => simp [request_of_room hopen htask, Turn.read?]
  | stalled range chunk later elapsed hopen htask =>
      simp [request_of_room hopen htask, Turn.read?]
  | sent range chunk later hopen htask => simp [request_of_send hopen htask, Turn.read?]
  | notSent range chunk later hopen htask => simp [request_of_send hopen htask, Turn.read?]

/-- What was read is sent, or it could not be sent, or it is held, or the session waits too long. -/
theorem Moves.held_eq (h : s.Moves terms event t signals) (hopen : s.phase ≠ .done) :
    s.task.held + (Turn.read? (s.request terms, event)).toList.length =
      t.task.held + (Turn.sent? (s.request terms, event)).toList.length +
        (if Turn.isUnsent (s.request terms, event) = true then 1 else 0) +
        (if (event.ending? terms).any Ending.isLate = true then 1 else 0) := by
  cases h with
  | ignored _ hdone => exact absurd hdone hopen
  | ends _ ending _ hawaits hending =>
      obtain ⟨-, hsent, hread, hunsent⟩ := turn_of_ending (s.request terms) hending
      rw [hsent, hread, hunsent, hending]
      obtain ⟨htask, hlate⟩ | ⟨_, _, htask, hlate, -⟩ | ⟨_, _, _, htask, hlate, -⟩ :=
        task_of_ending hopen hawaits hending <;>
        simp [htask, hlate, finish]
  | asked m ranges _ htask hasks =>
      simp [request_of_idle hopen htask, Turn.read?, Turn.sent?, Turn.isUnsent, Event.ending?,
        hasks.ofMessage?, htask]
  | read range later result n _ htask hread =>
      simp [request_of_read hopen htask, Turn.read?, Turn.sent?, Turn.isUnsent, Event.ending?,
        hread, Except.toOption, htask]
  | room range chunk later _ htask =>
      simp [request_of_room hopen htask, Turn.read?, Turn.sent?, Turn.isUnsent, Event.ending?,
        htask]
  | stalled range chunk later elapsed _ htask hintime =>
      simp [request_of_room hopen htask, Turn.read?, Turn.sent?, Turn.isUnsent, Event.ending?,
        Nat.not_lt.2 hintime]
  | sent range chunk later _ htask =>
      simp [request_of_send hopen htask, Turn.read?, Turn.sent?, Turn.isUnsent, Event.ending?,
        htask]
  | notSent range chunk later _ htask =>
      simp [request_of_send hopen htask, Turn.read?, Turn.sent?, Turn.isUnsent, Event.ending?,
        htask]

/-- If a turn is a good read, it gave what is in the content. -/
def Turn.ReadsFrom (length : UInt64) (data : Bytes) (turn : Turn) : Prop :=
  ∀ offset capacity result n, turn = (.read offset capacity, .read result) →
    result.outcome = .ok n →
    n = readableLength length offset capacity ∧ result.front.take n = data.slice offset.toNat n

/-- A sound task stays sound as long as reads are right. -/
theorem Moves.sound (h : s.Moves terms event t signals) (hsound : s.task.Sound data)
    (hlength : terms.length.toNat = data.length)
    (hread : Turn.ReadsFrom terms.length data (s.request terms, event)) : t.task.Sound data := by
  cases h with
  | ignored | stalled => exact hsound
  | ends | notSent => trivial
  | asked m ranges _ _ hasks =>
      exact Task.sound_serve (ServerMessage.isValid_of_ranges hasks.ranges)
  | read range later result n hopen htask hok =>
      rw [htask] at hsound
      obtain ⟨hn, hfront⟩ := hread _ _ _ n (by rw [request_of_read hopen htask]) hok
      exact ⟨hsound, ofChunk_chunkOf hlength (hsound range (by simp)) hn hfront⟩
  | room range chunk later _ htask =>
      rw [htask] at hsound
      exact hsound
  | sent range chunk later _ htask =>
      rw [htask] at hsound
      exact Task.sound_serve fun r hmem => hsound.1 r (by simp [hmem])

/-- A session that reads for valid ranges counts at most 2147483647 bytes for each read. -/
theorem Moves.bytes_le (h : s.Moves terms event t signals) (hsound : s.task.Sound data)
    (hread : Turn.ReadsFrom terms.length data (s.request terms, event))
    (hbytes : s.stats.bytes ≤ s.stats.fetches * 2147483647) :
    t.stats.bytes ≤ t.stats.fetches * 2147483647 := by
  cases h with
  | ignored | ends | asked | room | stalled | sent | notSent => exact hbytes
  | read range later result n hopen htask hok =>
      rw [htask] at hsound
      obtain ⟨hn, -⟩ := hread _ _ _ n (by rw [request_of_read hopen htask]) hok
      have hcapacity : n ≤ capacity terms range := hn ▸ readableLength_le _ _ _
      have hsize : capacity terms range ≤ range.size.toNat := readableLength_le _ _ _
      have hlimit := ByteRange.size_le (hsound range (by simp))
      simp only
      omega

/-- What is sent answers the first range of the task. Unless the turn disturbs it, the ranges of the
task and those that are asked for are answered now or held by the next task. -/
theorem Moves.answers (h : s.Moves terms event t signals) (hopen : s.phase ≠ .done)
    (hsound : s.task.Sound data) :
    ∃ ranges, (Turn.sent? (s.request terms, event)).toList = ranges.map (answerTo data) ∧
      (Turn.disturbs terms (s.request terms, event) = false →
        s.task.ranges ++ Turn.requested (s.request terms, event) = ranges ++ t.task.ranges) := by
  cases h with
  | ignored _ hdone => exact absurd hdone hopen
  | ends _ ending _ hawaits hending =>
      obtain ⟨hrequested, hsent, -, -⟩ := turn_of_ending (s.request terms) hending
      refine ⟨[], by simp [hsent], fun hcalm => ?_⟩
      simp only [Turn.disturbs, Bool.or_eq_false_iff] at hcalm
      obtain ⟨htask, -⟩ | ⟨_, _, -, -, hunread⟩ | ⟨_, _, _, -, -, hlate⟩ :=
        task_of_ending hopen hawaits hending
      · simp [htask, hrequested, finish]
      · simp [hunread] at hcalm
      · simp [hlate] at hcalm
  | asked m ranges _ htask hasks =>
      refine ⟨[], ?_, fun _ => ?_⟩ <;>
        simp [request_of_idle hopen htask, Turn.sent?, Turn.requested, htask, hasks.requestedBy]
  | read range later result n _ htask =>
      refine ⟨[], ?_, fun _ => ?_⟩ <;>
        simp [request_of_read hopen htask, Turn.sent?, Turn.requested, htask]
  | room range chunk later _ htask =>
      refine ⟨[], ?_, fun _ => ?_⟩ <;>
        simp [request_of_room hopen htask, Turn.sent?, Turn.requested, htask]
  | stalled range chunk later elapsed _ htask =>
      refine ⟨[], ?_, fun _ => ?_⟩ <;>
        simp [request_of_room hopen htask, Turn.sent?, Turn.requested]
  | sent range chunk later _ htask =>
      rw [htask] at hsound
      refine ⟨[range], ?_, fun _ => ?_⟩ <;>
        simp [request_of_send hopen htask, Turn.sent?, Turn.requested, htask, hsound.2]
  | notSent range chunk later _ htask =>
      refine ⟨[], by simp [request_of_send hopen htask, Turn.sent?], fun hcalm => ?_⟩
      simp [request_of_send hopen htask, Turn.disturbs, Turn.isUnsent] at hcalm

/-! ## What a run keeps -/

/-- A turn that disturbs the order sends nothing. -/
theorem sent?_of_disturbs {turn : Turn} (h : turn.disturbs terms = true) : turn.sent? = none := by
  obtain ⟨request, event⟩ := turn
  cases request <;> cases event <;>
    first | rfl | simp [Turn.disturbs, Turn.isUnread, Turn.isLate, Turn.isUnsent] at h

/-- A session that is still open was disturbed by nothing but a message that could not be sent. -/
theorem isUnsent_of_disturbs {turn : Turn} (hnone : firstEnding terms log = none)
    (hmem : turn ∈ log) (h : turn.disturbs terms = true) : turn.isUnsent = true := by
  have hending : turn.2.ending? terms = none := List.findSome?_eq_none_iff.1 hnone turn hmem
  obtain ⟨request, event⟩ := turn
  cases request <;> cases event <;>
    simp_all [Turn.disturbs, Turn.isUnread, Turn.isLate, Turn.isUnsent, Event.ending?]
  all_goals split at hending <;> simp_all [Except.toOption]

/-- A turn sends nothing if it or an earlier turn of the open session disturbs the order. -/
theorem sent?_of_disturbed {last : Turn} (hnone : firstEnding terms log = none)
    (hlast : ∀ turn ∈ log, turn.isUnsent = true → last.sent? = none)
    (h : ¬ ∀ turn ∈ log ++ [last], turn.disturbs terms = false) : last.sent? = none := by
  simp only [Classical.not_forall, Bool.not_eq_false] at h
  obtain ⟨turn, hmem, hdisturbs⟩ := h
  rcases List.mem_append.1 hmem with hmem | hmem
  · exact hlast turn hmem (isUnsent_of_disturbs hnone hmem hdisturbs)
  · rw [List.mem_singleton.1 hmem] at hdisturbs
    exact sent?_of_disturbs hdisturbs

/-- A session that is over has no task. -/
theorem Path.task_of_done (h : Path terms {} log t) (hdone : t.phase = .done) :
    t.task = .idle := by
  induction h with
  | start => rfl
  | turn _ _ hmove ih =>
      cases hmove with
      | ignored | stalled => exact ih hdone
      | ends => rfl
      | asked => cases hdone
      | read _ _ _ _ hopen | room _ _ _ hopen | sent _ _ _ hopen | notSent _ _ _ hopen =>
          exact absurd hdone hopen

/-- A session at rest has no task. -/
theorem Path.task_of_rest (h : Path terms {} log t) (hrest : t.AtRest terms) : t.task = .idle := by
  by_cases hdone : t.phase = .done
  · exact h.task_of_done hdone
  · exact task_of_atRest hdone hrest

/-- What a session counts: its successful reads and their bytes, and each of the reads was sent,
could not be sent, is held or came too late. -/
theorem Path.counts (h : Path terms {} log t) :
    t.stats.fetches = (readLengths log).length ∧ t.stats.bytes = bytesRead log ∧
      (readLengths log).length = (sentMessages log).length + unsent log + t.task.held +
        if endedLate terms log = true then 1 else 0 := by
  induction h with
  | start => exact ⟨rfl, rfl, rfl⟩
  | @turn log t event t' signals hpath hawaits hmove ih =>
      obtain ⟨hfetches, hbytes, hheld⟩ := ih
      obtain ⟨hfetches', hbytes'⟩ := hmove.stats_eq
      refine ⟨by simp [hfetches', hfetches], by simp [hbytes', hbytes], ?_⟩
      -- After the end nothing is read or sent, and the first ending stays the same.
      by_cases hdone : t.phase = .done
      · obtain ⟨rfl, -⟩ := hmove.eq_of_done hdone
        obtain ⟨ending, hending⟩ := Option.isSome_iff_exists.1 (hpath.concluded.2.1 hdone)
        simp only [endedLate, hending] at hheld
        simp [request_of_done hdone, endedLate, firstEnding_snoc, hending, Turn.read?, Turn.sent?,
          Turn.isUnsent, hheld]
      · have hnone : firstEnding terms log = none := by simpa [hdone] using hpath.concluded.2
        have hstep := hmove.held_eq hdone
        simp only [endedLate, hnone, Option.any_none] at hheld
        simp only [readLengths_snoc, sentMessages_snoc, unsent_snoc, List.length_append, endedLate,
          firstEnding_snoc, hnone, Option.none_or]
        simp only [Bool.false_eq_true, if_false] at hheld
        omega

/-- As long as reads are right, the task is sound, and what was read is as much as the ranges can
ask for. -/
theorem Path.sound (h : Path terms {} log t) (hlength : terms.length.toNat = data.length)
    (hreads : ∀ turn ∈ log, turn.ReadsFrom terms.length data) :
    t.task.Sound data ∧ t.stats.bytes ≤ t.stats.fetches * 2147483647 := by
  induction h with
  | start => exact ⟨trivial, Nat.le_refl _⟩
  | turn _ _ hmove ih =>
      obtain ⟨hsound, hbytes⟩ := ih fun turn hmem => hreads turn (by simp [hmem])
      have hread := hreads _ List.mem_concat_self
      exact ⟨hmove.sound hsound hlength hread, hmove.bytes_le hsound hread hbytes⟩

/-- What a session sends answers the first of the ranges that it was asked for. If nothing disturbed
it, its task holds the others. -/
theorem Path.answered (h : Path terms {} log t) (hlength : terms.length.toNat = data.length)
    (hreads : ∀ turn ∈ log, turn.ReadsFrom terms.length data)
    (hfails : log.Pairwise fun turn later => turn.isUnsent = true → later.sent? = none) :
    ∃ ranges, sentMessages log = ranges.map (answerTo data) ∧ ranges <+: requested log ∧
      ((∀ turn ∈ log, turn.disturbs terms = false) → requested log = ranges ++ t.task.ranges) := by
  induction h with
  | start => exact ⟨[], rfl, List.prefix_rfl, fun _ => rfl⟩
  | @turn log t event t' signals hpath hawaits hmove ih =>
      obtain ⟨hfails, -, hlast⟩ := List.pairwise_append.1 hfails
      have hbefore : ∀ turn ∈ log, turn.ReadsFrom terms.length data := fun turn hmem =>
        hreads turn (by simp [hmem])
      obtain ⟨ranges, hsent, hprefix, hall⟩ := ih hbefore hfails
      obtain ⟨hsound, -⟩ := hpath.sound hlength hbefore
      by_cases hdone : t.phase = .done
      · obtain ⟨rfl, -⟩ := hmove.eq_of_done hdone
        rw [request_of_done hdone]
        refine ⟨ranges, by simpa [Turn.sent?] using hsent, ?_, fun hcalm => ?_⟩
        · simpa [Turn.requested] using hprefix
        · simpa [Turn.requested] using hall fun turn hmem => hcalm turn (by simp [hmem])
      have hnone : firstEnding terms log = none := by simpa [hdone] using hpath.concluded.2
      obtain ⟨more, hmore, hkept⟩ := hmove.answers hdone hsound
      -- Either this turn is in order, or it sends nothing and the answered ranges stay.
      by_cases hcalm : ∀ turn ∈ log ++ [(t.request terms, event)], turn.disturbs terms = false
      · have hnow := hall fun turn hmem => hcalm turn (by simp [hmem])
        have hstep := hkept (hcalm _ (by simp))
        have hrequested : requested (log ++ [(t.request terms, event)]) =
            ranges ++ more ++ t'.task.ranges := by
          rw [requested_snoc, hnow, List.append_assoc, hstep, List.append_assoc]
        refine ⟨ranges ++ more, by simp [hsent, hmore], ?_, fun _ => hrequested⟩
        rw [hrequested]
        exact List.prefix_append _ _
      · have hquiet := sent?_of_disturbed hnone (fun turn hmem => hlast turn hmem _ (by simp)) hcalm
        refine ⟨ranges, by simp [hsent, hquiet], ?_, fun h => absurd h hcalm⟩
        rw [requested_snoc]
        exact hprefix.trans (List.prefix_append _ _)

/-! ## Runs in given surroundings -/

/-- In surroundings that read the content, every good read gives what is in it. -/
theorem Runs.readsFrom (h : Runs terms around s world log t w)
    (hserves : around.Serves terms.length data) :
    ∀ turn ∈ log, turn.ReadsFrom terms.length data := by
  induction h with
  | start => simp
  | @answer log t w event w' _ hserve ih =>
      intro turn hmem
      obtain hmem | hmem := List.mem_append.1 hmem
      · exact ih turn hmem
      rintro offset capacity result n hturn hok
      rw [List.mem_singleton.1 hmem, Prod.mk.injEq] at hturn
      obtain ⟨hrequest, rfl⟩ := hturn
      rw [hrequest] at hserve
      simp only [Request.serve, Option.some.injEq, Prod.mk.injEq, Event.read.injEq] at hserve
      obtain ⟨rfl, -⟩ := hserve
      exact hserves.read w offset capacity n hok
  | call event _ _ hcall ih =>
      intro turn hmem
      obtain hmem | hmem := List.mem_append.1 hmem
      · exact ih turn hmem
      rintro offset capacity result n hturn
      rw [List.mem_singleton.1 hmem, Prod.mk.injEq] at hturn
      rw [hturn.2] at hcall
      cases hcall

section

variable {broken : σ → Prop} (hbreaks : around.Breaks broken)

include hbreaks

/-- Signals do not mend broken surroundings. -/
theorem broken_act (h : broken w) : broken (t.act terms around w event).2 := by
  have hsignals : ∀ signals, broken w → broken (List.foldl around.signal w signals) := by
    intro signals
    induction signals generalizing w with
    | nil => exact id
    | cons signal signals ih =>
        intro h
        have hnext := hbreaks.signal w signal h
        exact ih hnext hnext
  exact hsignals _ h

/-- An answer of broken surroundings says that nothing was sent, and does not mend them. An answer
that says so breaks them. -/
theorem broken_serve {request : Request} (h : request.serve around w = some (event, w')) :
    (broken w → broken w' ∧ Turn.sent? (request, event) = none) ∧
      (Turn.isUnsent (request, event) = true → broken w') := by
  cases request with
  | message | nothing => cases h
  | read offset capacity =>
      simp only [Request.serve, Option.some.injEq, Prod.mk.injEq] at h
      obtain ⟨rfl, rfl⟩ := h
      exact ⟨fun hbroken => ⟨hbreaks.read w offset capacity hbroken, rfl⟩,
        fun h => absurd h Bool.false_ne_true⟩
  | room =>
      have hstep := hbreaks.waitForRoom w
      simp only [Request.serve] at h
      split at h
      all_goals
        rename_i hwait
        cases h
        rw [hwait] at hstep
        exact ⟨fun hbroken => ⟨hstep hbroken, rfl⟩, fun h => absurd h Bool.false_ne_true⟩
  | send m =>
      simp only [Request.serve, Option.some.injEq, Prod.mk.injEq] at h
      obtain ⟨rfl, rfl⟩ := h
      cases hsend : (around.send w m).1 with
      | true =>
          refine ⟨fun hbroken => ?_, fun h => absurd h Bool.false_ne_true⟩
          simp [hbreaks.send w m hbroken] at hsend
      | false =>
          have hbroken := hbreaks.unsent w m hsend
          exact ⟨fun _ => ⟨hbroken, rfl⟩, fun _ => hbroken⟩

/-- In surroundings that break, nothing is sent after a message that could not be sent. -/
theorem Runs.nothing_after_unsent (h : Runs terms around s world log t w) :
    (∀ turn ∈ log, turn.isUnsent = true → broken w) ∧
      log.Pairwise fun turn later => turn.isUnsent = true → later.sent? = none := by
  induction h with
  | start => exact ⟨by simp, .nil⟩
  | @answer log t w event w' _ hserve ih =>
      obtain ⟨hbroken, hpairs⟩ := ih
      -- An earlier failure broke the surroundings before this answer, this one does so now.
      obtain ⟨hkept, hbreak⟩ := broken_serve hbreaks hserve
      refine ⟨?_, List.pairwise_append.2 ⟨hpairs, List.pairwise_singleton _ _, ?_⟩⟩
      · intro turn hmem hunsent
        refine broken_act hbreaks ?_
        obtain hmem | hmem := List.mem_append.1 hmem
        · exact (hkept (hbroken turn hmem hunsent)).1
        · rw [List.mem_singleton.1 hmem] at hunsent
          exact hbreak hunsent
      · intro turn hmem later hlater hunsent
        rw [List.mem_singleton.1 hlater]
        exact (hkept (hbroken turn hmem hunsent)).2
  | @call log t w event _ _ hcall ih =>
      obtain ⟨hbroken, hpairs⟩ := ih
      have hquiet := turn_of_isCall (t.request terms) hcall
      refine ⟨?_, List.pairwise_append.2 ⟨hpairs, List.pairwise_singleton _ _, ?_⟩⟩
      · intro turn hmem hunsent
        obtain hmem | hmem := List.mem_append.1 hmem
        · exact broken_act hbreaks (hbroken turn hmem hunsent)
        · rw [List.mem_singleton.1 hmem, hquiet.2] at hunsent
          cases hunsent
      · intro turn _ later hlater _
        rw [List.mem_singleton.1 hlater]
        exact hquiet.1

end

/-! ## The main theorem -/

/-- In surroundings that read the content `data`, and in which no message can be sent after one
that could not be sent: at every point of a run a session has answered the first of the ranges
that it was asked for, in order, each with its bytes of the content, and it has sent nothing else.
When it comes to rest it has answered all of them, unless a read failed, a wait took too long or a
message could not be sent. It counts its successful reads and their bytes, at most 2147483647 for
each. At rest, the reads that were not sent are those whose message could not be sent, and one
more if the session ended because it waited too long.

A whole call is such a run, with the scanner's messages as its calls. In surroundings that keep time
it ends within the budget of the session. -/
theorem chunks_answer_requests (terms : Terms) (around : Surroundings σ) (world : σ) (data : Bytes)
    (hserves : around.Serves terms.length data) (hfails : around.FailsForGood) :
    (∀ log s w, Runs terms around {} world log s w →
      (∃ ranges, ranges <+: requested log ∧ sentMessages log = ranges.map (answerTo data) ∧
        (s.AtRest terms → (∀ turn ∈ log, turn.disturbs terms = false) → ranges = requested log)) ∧
      s.stats.fetches = (readLengths log).length ∧
      s.stats.bytes = bytesRead log ∧
      s.stats.bytes ≤ s.stats.fetches * 2147483647 ∧
      (s.AtRest terms → s.stats.fetches = (sentMessages log).length + unsent log +
        if endedLate terms log = true then 1 else 0)) ∧
    (∀ allowed items s w, drive? terms around allowed {} world items = some (s, w) →
      ∃ log, Runs terms around {} world log s w ∧ s.AtRest terms ∧
        calls log = items.map Event.ofItem ++ [.closed]) ∧
    (∀ clock : σ → Nat, around.KeepsTime clock → ∀ items,
      ∃ s w, drive? terms around (budget terms) {} world items = some (s, w)) := by
  refine ⟨?_, ?_, ?_⟩
  · intro log s w hrun
    obtain ⟨broken, hbreaks⟩ := hfails
    have hreads := hrun.readsFrom hserves
    obtain ⟨-, hbound⟩ := hrun.path.sound hserves.length_eq hreads
    obtain ⟨ranges, hsent, hprefix, hall⟩ := hrun.path.answered hserves.length_eq hreads
      (hrun.nothing_after_unsent hbreaks).2
    obtain ⟨hfetches, hbytes, hsum⟩ := hrun.path.counts
    refine ⟨⟨ranges, hprefix, hsent, fun hrest hcalm => ?_⟩, hfetches, hbytes, hbound,
      fun hrest => ?_⟩
    · rw [hall hcalm, hrun.path.task_of_rest hrest, Task.ranges_idle, List.append_nil]
    · rw [hfetches, hsum, hrun.path.task_of_rest hrest, Task.held_idle, Nat.add_zero]
  · intro allowed items s w h
    obtain ⟨log, hrun, hcalls, hrest⟩ := drive?_runs (.inl rfl) h
    exact ⟨log, hrun, hrest, hcalls⟩
  · exact fun clock hclock items => ⟨_, _, (drive_runs hclock (.inl rfl) items).1⟩

/-- Surroundings with a content in memory and a stream that takes only so many messages. -/
def limited (data : Bytes) : Surroundings Nat where
  read room offset capacity :=
    (.of (data.slice offset.toNat (readableLength (.ofNat data.length) offset capacity)), room)
  waitForRoom room := (none, room)
  send room _ := (decide (0 < room), room - 1)
  signal room _ := room

/-- The content in memory is read as it is. -/
theorem limited_serves (hlength : data.length < UInt64.size) :
    (limited data).Serves (.ofNat data.length) data where
  length_eq := UInt64.toNat_ofNat_of_lt' hlength
  read room offset capacity n h := by
    have heq : (UInt64.ofNat data.length).toNat = data.length := UInt64.toNat_ofNat_of_lt' hlength
    have hn : (data.slice offset.toNat
        (readableLength (.ofNat data.length) offset capacity)).length = n := Except.ok.inj h
    have hlen := length_slice_readableLength heq offset capacity
    refine ⟨hn.symm.trans hlen, ?_⟩
    change List.take n (data.slice _ _) = _
    rw [← hn, List.take_length, hlen]

/-- A stream that has taken all its messages takes no other one. -/
theorem limited_failsForGood (data : Bytes) : (limited data).FailsForGood := by
  refine ⟨fun room => room = 0, ?_, ?_, ?_, ?_, ?_⟩
  · intro room m h
    simp only [limited, decide_eq_false_iff_not] at h ⊢
    omega
  · intro room m h
    simp [limited, h]
  · exact fun _ _ _ h => h
  · exact fun _ h => h
  · exact fun _ _ h => h

/-- The surroundings never wait in vain, so that any clock will do. -/
theorem limited_keepsTime (data : Bytes) : (limited data).KeepsTime fun _ => 0 where
  read _ _ _ := Nat.le_refl _
  send _ _ := Nat.le_refl _
  signal _ _ := Nat.le_refl _
  room _ := Nat.le_refl _
  noRoom _ _ h := nomatch h

/-- A whole call with a request for two ranges over a stream that takes one message. -/
theorem chunks_answer_requests_limited :
    ∃ log s w ranges,
      drive? ⟨3, ⟨0⟩⟩ (limited [1, 2, 3]) (budget ⟨3, ⟨0⟩⟩) {} 1
        [.ok (.bulkRetr [(1, 5), (0, 1)]), .ok (.quit "clean")] = some (s, w) ∧
      Runs ⟨3, ⟨0⟩⟩ (limited [1, 2, 3]) {} 1 log s w ∧
      requested log = [⟨1, 5⟩, ⟨0, 1⟩] ∧ sentMessages log = [.ofChunk 1 [2, 3]] ∧
      ranges <+: requested log ∧ sentMessages log = ranges.map (answerTo [1, 2, 3]) ∧
      s.stats = ⟨2, 3⟩ ∧ s.stats.fetches = (sentMessages log).length + 1 ∧
      s.outcome = some (.ok "clean") := by
  have hstart : Runs ⟨3, ⟨0⟩⟩ (limited [1, 2, 3]) {} 1 [] {} 1 := .start
  have hasked := hstart.call (.message (.bulkRetr [(1, 5), (0, 1)])) (.inl rfl) rfl
  have hfirst := ((hasked.answer rfl).answer rfl).answer rfl
  have hsecond := ((hfirst.answer rfl).answer rfl).answer rfl
  have hquit := hsecond.call (.message (.quit "clean")) (.inl rfl) rfl
  have hrun := hquit.call .closed (.inr rfl) rfl
  obtain ⟨hruns, -, hdrive⟩ := chunks_answer_requests ⟨3, ⟨0⟩⟩ (limited [1, 2, 3]) 1 [1, 2, 3]
    (limited_serves (by decide)) (limited_failsForGood [1, 2, 3])
  obtain ⟨⟨ranges, hprefix, hsent, -⟩, -, -, -, hfetches⟩ := hruns _ _ _ hrun
  obtain ⟨s, w, hdriven⟩ := hdrive (fun _ => 0) (limited_keepsTime [1, 2, 3])
    [.ok (.bulkRetr [(1, 5), (0, 1)]), .ok (.quit "clean")]
  cases hdriven
  exact ⟨_, _, _, ranges, rfl, hrun, by decide, by decide, hprefix, hsent, by decide,
    hfetches (.inr rfl), rfl⟩

end Session

end MalwareScan
