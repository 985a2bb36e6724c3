import MalwareScan.Proofs.Session.Deadline

/-!
# Splitting requests

Many ranges may be asked for in one message or in several ones. `Takes` says what a session asks its
surroundings for while it takes the scanner's calls one after the other, and where it is then.

A session that has more ranges to serve after its task (`Session.followedBy`) does what it would
do without them, turn by turn, until it would be at rest (`Runs.of_followedBy`). If it is over by
then, it serves none of them, just as it would not hear a second message. This is what
`settles_followedBy_iff` says, and from it the main theorem `requests_can_be_split` follows.
-/

namespace MalwareScan

open Wire (ByteRange ServerMessage)

/-- No message fails to be sent. -/
def Surroundings.SendsAll {σ : Type} (around : Surroundings σ) : Prop :=
  ∀ world m, (around.send world m).1 = true

namespace Task

/-- The task with more ranges to serve after it. -/
def followedBy (extra : List ByteRange) : Task → Task
  | idle => serve extra
  | read range later => read range (later ++ extra)
  | room range chunk later => room range chunk (later ++ extra)
  | send range chunk later => send range chunk (later ++ extra)

section

variable (extra : List ByteRange) (range : ByteRange) (chunk : Bytes) (later : List ByteRange)

@[simp] theorem followedBy_idle : idle.followedBy extra = serve extra := rfl
@[simp] theorem followedBy_read :
    (read range later).followedBy extra = read range (later ++ extra) := rfl
@[simp] theorem followedBy_room :
    (room range chunk later).followedBy extra = room range chunk (later ++ extra) := rfl
@[simp] theorem followedBy_send :
    (send range chunk later).followedBy extra = send range chunk (later ++ extra) := rfl

end

/-- More ranges after a range are ranges that come later. -/
@[simp] theorem followedBy_serve (ranges extra : List ByteRange) :
    (serve ranges).followedBy extra = serve (ranges ++ extra) := by
  cases ranges <;> rfl

/-- More ranges can be added at once or one part after the other. -/
theorem followedBy_followedBy (task : Task) (extra more : List ByteRange) :
    (task.followedBy extra).followedBy more = task.followedBy (extra ++ more) := by
  cases task <;> simp

end Task

namespace Session

/-- The session with more ranges to serve after its task. One that is over serves nothing any
more. -/
def followedBy (s : Session) (extra : List ByteRange) : Session :=
  if s.isDone then s else { s with task := s.task.followedBy extra }

/-- The session with a request for no ranges. -/
def started (s : Session) : Session :=
  if s.isDone then s else { s with phase := .running }

/-- The session comes to rest by answers of its surroundings. `asked` tells what it asked for, and
the answers. -/
structure Settles {σ : Type} (terms : Terms) (around : Surroundings σ) (s : Session) (world : σ)
    (asked : List Turn) (t : Session) (w : σ) : Prop where
  runs : Runs terms around s world asked t w
  calls : calls asked = []
  atRest : t.AtRest terms

/-- The session takes the calls one after the other, each one until it is at rest again. `asked`
tells what it asked its surroundings for meanwhile, and the answers. -/
inductive Takes {σ : Type} (terms : Terms) (around : Surroundings σ) :
    Session → σ → List Event → List Turn → Session → σ → Prop where
  | done (s world) : Takes terms around s world [] [] s world
  | call {s world event events asked more t w t' w'}
      (hsettles : Settles terms around (s.act terms around world event).1
        (s.act terms around world event).2 asked t w)
      (hlater : Takes terms around t w events more t' w') :
      Takes terms around s world (event :: events) (asked ++ more) t' w'

variable {σ : Type} {terms : Terms} {around : Surroundings σ} {allowed : Session → Nat}
  {s t : Session} {world w w' : σ} {event : Event} {events : List Event} {signals : List Signal}
  {extra : List ByteRange} {log asked : List Turn}

/-- A session that is over stays as it is. -/
theorem followedBy_of_done (h : s.phase = .done) : s.followedBy extra = s := by
  simp [followedBy, isDone, h]

/-- An open session gets more ranges to serve. -/
theorem followedBy_of_open (h : s.phase ≠ .done) :
    s.followedBy extra = { s with task := s.task.followedBy extra } := by
  simp [followedBy, isDone, h]

@[simp] theorem phase_followedBy (s : Session) (extra : List ByteRange) :
    (s.followedBy extra).phase = s.phase := by
  unfold followedBy
  split <;> rfl

/-- More ranges can be added at once or one part after the other. -/
theorem followedBy_followedBy (s : Session) (extra more : List ByteRange) :
    (s.followedBy extra).followedBy more = s.followedBy (extra ++ more) := by
  by_cases hdone : s.phase = .done
  · rw [followedBy_of_done hdone, followedBy_of_done hdone, followedBy_of_done hdone]
  · rw [followedBy_of_open (by simpa using hdone), followedBy_of_open hdone,
      followedBy_of_open hdone, Task.followedBy_followedBy]

/-- A session that got a request before is what it is. -/
theorem started_of_phase (h : s.phase ≠ .initSent) : s.started = s := by
  unfold started
  cases hphase : s.phase with
  | initSent => exact absurd hphase h
  | running =>
      rw [← hphase]
      split <;> rfl
  | done => simp [isDone, hphase]

/-- A session that got a request is no new one. -/
theorem rank_phase_started (s : Session) : 0 < s.started.phase.rank := by
  unfold started
  cases hphase : s.phase <;> simp [isDone, hphase, Phase.rank]

/-- A session at rest takes the ranges of a request after its task, which is none. -/
theorem act_of_asks {m : ServerMessage} {ranges : List ByteRange} (hrest : s.AtRest terms)
    (hasks : Asks m ranges) :
    s.act terms around world (.message m) = (s.started.followedBy ranges, world) := by
  by_cases hdone : s.phase = .done
  · have hover : s.isDone = true := by simp [isDone, hdone]
    simp [act, step_of_isDone hover, started, hover, followedBy_of_done hdone]
  · have htask := task_of_atRest hdone hrest
    have hmoves : s.Moves terms (.message m) _ _ := .asked m ranges hdone htask hasks
    have hstarted : s.started.followedBy ranges =
        { s with phase := .running, task := .serve ranges } := by
      simp [started, followedBy, isDone, hdone, htask]
    simp [act, hmoves.step_eq, hstarted]

/-! ## Ranges that come later -/

/-- What a session asks for does not depend on the ranges that come later. -/
theorem request_followedBy (h : ¬ s.AtRest terms) :
    (s.followedBy extra).request terms = s.request terms := by
  have hopen : s.phase ≠ .done := fun hdone => h (atRest_of_done hdone)
  have hextended : (s.followedBy extra).phase ≠ .done := by simpa using hopen
  rw [request_of_open hopen] at *
  rw [request_of_open hextended, followedBy_of_open hopen]
  cases htask : s.task with
  | idle => exact absurd (.inl (request_of_idle hopen htask)) h
  | read | room | send => rfl

/-- A move of a session that is not at rest leaves the ranges that come later alone, unless a
message could not be sent. -/
theorem Moves.followedBy (h : s.Moves terms event t signals) (hbusy : ¬ s.AtRest terms)
    (hsent : event ≠ .notSent) :
    (s.followedBy extra).Moves terms event (t.followedBy extra) signals := by
  have hopen : s.phase ≠ .done := fun hdone => hbusy (atRest_of_done hdone)
  have hsame : s.followedBy extra = { s with task := s.task.followedBy extra } :=
    followedBy_of_open hopen
  have hextended : (s.followedBy extra).phase ≠ .done := by simpa using hopen
  cases h with
  | ignored _ hdone => exact absurd hdone hopen
  | ends _ ending _ hawaits hending =>
      have hrequest : (s.followedBy extra).request terms = s.request terms :=
        request_followedBy hbusy
      rw [← hrequest] at hawaits
      have hfinish : (s.finish ending.outcome).followedBy extra =
          (s.followedBy extra).finish ending.outcome := by
        rw [followedBy_of_done rfl, hsame]
        rfl
      rw [hfinish]
      exact .ends _ ending hextended hawaits hending
  | asked m ranges _ htask =>
      exact absurd (.inl (request_of_idle hopen htask)) hbusy
  | read range later result n _ htask hread =>
      rw [hsame, followedBy_of_open (by exact hopen)]
      exact .read range (later ++ extra) result n hopen (by simp [htask]) hread
  | room range chunk later _ htask =>
      rw [hsame, followedBy_of_open (by exact hopen)]
      exact .room range chunk (later ++ extra) hopen (by simp [htask])
  | stalled range chunk later elapsed _ htask hintime =>
      rw [hsame]
      exact .stalled range chunk (later ++ extra) elapsed hopen (by simp [htask]) hintime
  | sent range chunk later _ htask =>
      rw [hsame, followedBy_of_open (by exact hopen)]
      simp only [Task.followedBy_serve]
      exact .sent range chunk (later ++ extra) hopen (by simp [htask])
  | notSent => exact absurd rfl hsent

/-- The surroundings have an answer for a session that is not at rest only. -/
theorem not_atRest_of_serve (h : (s.request terms).serve around w = some (event, w')) :
    ¬ s.AtRest terms := by
  intro hrest
  rw [serve_eq_none_iff.2 hrest] at h
  cases h

section

variable (hsends : around.SendsAll)

include hsends

/-- Surroundings that send all never say that a message was not sent. -/
theorem ne_notSent_of_serve {request : Request}
    (h : request.serve around w = some (event, w')) : event ≠ .notSent := by
  rintro rfl
  cases request with
  | message | nothing | read => cases h
  | room =>
      simp only [Request.serve] at h
      split at h <;> cases h
  | send m => simp [Request.serve, hsends w m] at h

/-- An answer leaves the ranges that come later alone. -/
theorem act_followedBy (h : (s.request terms).serve around w = some (event, w')) :
    (s.followedBy extra).act terms around w' event =
      ((s.act terms around w' event).1.followedBy extra, (s.act terms around w' event).2) := by
  have hmoves : (s.followedBy extra).Moves terms event
      ((s.step terms event).1.followedBy extra) (s.step terms event).2 :=
    (step_moves (awaits_of_serve h).1).followedBy (not_atRest_of_serve h)
      (ne_notSent_of_serve hsends h)
  simp only [act, hmoves.step_eq]

/-- A run of answers is also one of the session with more ranges to serve, and leaves these alone.
-/
theorem Runs.followedBy (h : Runs terms around s world log t w) (hcalls : calls log = []) :
    Runs terms around (s.followedBy extra) world log (t.followedBy extra) w := by
  induction h with
  | start => exact .start
  | @answer log t w event w' _ hserve ih =>
      rw [calls_append, List.append_eq_nil_iff] at hcalls
      have hsame : (t.followedBy extra).request terms = t.request terms :=
        request_followedBy (not_atRest_of_serve hserve)
      have hnext := Runs.answer (ih hcalls.1) (hsame ▸ hserve)
      rwa [hsame, act_followedBy hsends hserve] at hnext
  | call event _ _ hcall => simp [hcall] at hcalls

end

/-! ## Taking calls -/

/-- The first call is taken before the others. -/
theorem takes_cons_iff :
    Takes terms around s world (event :: events) asked t w ↔
      ∃ first more u v, asked = first ++ more ∧
        Settles terms around (s.act terms around world event).1
          (s.act terms around world event).2 first u v ∧
        Takes terms around u v events more t w := by
  constructor
  · rintro (_ | ⟨hsettles, hlater⟩)
    exact ⟨_, _, _, _, rfl, hsettles, hlater⟩
  · rintro ⟨first, more, u, v, rfl, hsettles, hlater⟩
    exact .call hsettles hlater

/-- One call is taken by settling after it. -/
theorem takes_singleton_iff :
    Takes terms around s world [event] asked t w ↔
      Settles terms around (s.act terms around world event).1
        (s.act terms around world event).2 asked t w := by
  rw [takes_cons_iff]
  constructor
  · rintro ⟨first, _, u, v, rfl, hsettles, ⟨⟩⟩
    rwa [List.append_nil]
  · intro hsettles
    exact ⟨asked, [], t, w, (List.append_nil _).symm, hsettles, .done t w⟩

/-- A session that settles does so with enough turns. -/
theorem Settles.settle? (h : Settles terms around s world asked t w) :
    ∃ enough, ∀ turns, enough ≤ turns → s.settle? terms around turns world = some (t, w) := by
  obtain ⟨enough, hmore⟩ := h.runs.settle?_eq h.calls
  refine ⟨enough, fun turns hturns => ?_⟩
  rw [← Nat.sub_add_cancel hturns, hmore, settle?_of_atRest h.atRest]

/-- A session that takes calls does so with enough turns. -/
theorem Takes.receiveAll? (h : Takes terms around s world events asked t w) :
    ∃ enough, ∀ turns, enough ≤ turns →
      s.receiveAll? terms around (fun _ => turns) world events = some (t, w) := by
  induction h with
  | done => exact ⟨0, fun _ _ => rfl⟩
  | call hsettles _ ih =>
      obtain ⟨enough, hfirst⟩ := hsettles.settle?
      obtain ⟨later, hlater⟩ := ih
      refine ⟨max enough later, fun turns hturns => ?_⟩
      have hboth := hfirst turns (by omega)
      simp only [Session.receiveAll?, receive?, hboth, Option.bind_some]
      exact hlater turns (by omega)

/-- What is reached by calls is reached by taking them. -/
theorem takes_of_receiveAll? (h : s.receiveAll? terms around allowed world events = some (t, w)) :
    ∃ asked, Takes terms around s world events asked t w := by
  induction events generalizing s world with
  | nil =>
      cases h
      exact ⟨[], .done _ _⟩
  | cons event events ih =>
      simp only [receiveAll?, Option.bind_eq_some_iff] at h
      obtain ⟨⟨u, v⟩, hfirst, hlater⟩ := h
      obtain ⟨first, hrun, hcalls, hrest⟩ := settle?_runs hfirst
      obtain ⟨more, htakes⟩ := ih hlater
      exact ⟨first ++ more, .call ⟨hrun, hcalls, hrest⟩ htakes⟩

/-- With how many turns a session takes its calls does not matter for where it comes to rest. -/
theorem Takes.unique {more : List Turn} (h : Takes terms around s world events asked t w)
    {t' : Session} (h' : Takes terms around s world events more t' w') : t' = t ∧ w' = w := by
  obtain ⟨enough, hfirst⟩ := h.receiveAll?
  obtain ⟨later, hsecond⟩ := h'.receiveAll?
  have hboth := hfirst (max enough later) (Nat.le_max_left _ _)
  rw [hsecond _ (Nat.le_max_right _ _)] at hboth
  cases hboth
  exact ⟨rfl, rfl⟩

/-! ## The main theorem -/

section

variable (hsends : around.SendsAll)

include hsends

/-- What a session with more ranges to serve does first is what it would do without them. Only when
it would be at rest it turns to these. -/
theorem Runs.of_followedBy (h : Runs terms around (s.followedBy extra) world log t w)
    (hcalls : calls log = []) :
    (∃ u, Runs terms around s world log u w ∧ t = u.followedBy extra) ∨
    (∃ first more u v, log = first ++ more ∧ Settles terms around s world first u v ∧
      Runs terms around (u.followedBy extra) v more t w) := by
  induction h with
  | start => exact .inl ⟨s, .start, rfl⟩
  | @answer log t w event w' hrun hserve ih =>
      rw [calls_append, List.append_eq_nil_iff] at hcalls
      obtain ⟨u, hbase, rfl⟩ | ⟨first, more, u, v, rfl, hsettles, hmore⟩ := ih hcalls.1
      · by_cases hrest : u.AtRest terms
        · exact .inr ⟨log, _, u, w, rfl, ⟨hbase, hcalls.1, hrest⟩, .answer .start hserve⟩
        · have hsame : (u.followedBy extra).request terms = u.request terms :=
            request_followedBy hrest
          rw [hsame] at hserve ⊢
          rw [act_followedBy hsends hserve]
          exact .inl ⟨_, .answer hbase hserve, rfl⟩
      · exact .inr ⟨first, _, u, v, List.append_assoc _ _ _, hsettles, .answer hmore hserve⟩
  | call event _ _ hcall => simp [hcall] at hcalls

/-- A session with more ranges to serve settles by settling without them first, and then with them
alone. -/
theorem settles_followedBy_iff :
    Settles terms around (s.followedBy extra) world asked t w ↔
      ∃ first more u v, asked = first ++ more ∧ Settles terms around s world first u v ∧
        Settles terms around (u.followedBy extra) v more t w := by
  constructor
  · rintro ⟨hrun, hcalls, hrest⟩
    obtain ⟨u, hbase, rfl⟩ | ⟨first, more, u, v, rfl, hsettles, hmore⟩ :=
      hrun.of_followedBy hsends hcalls
    · have hidle : u.AtRest terms := Classical.byContradiction fun hbusy => by
        unfold AtRest at hrest
        rw [request_followedBy hbusy] at hrest
        exact hbusy hrest
      exact ⟨asked, [], u, w, (List.append_nil _).symm, ⟨hbase, hcalls, hidle⟩,
        ⟨.start, rfl, hrest⟩⟩
    · rw [calls_append, List.append_eq_nil_iff] at hcalls
      exact ⟨first, more, u, v, rfl, hsettles, ⟨hmore, hcalls.2, hrest⟩⟩
  · rintro ⟨first, more, u, v, rfl, hfirst, hmore⟩
    refine ⟨(hfirst.runs.followedBy hsends hfirst.calls).append hmore.runs, ?_, hmore.atRest⟩
    rw [calls_append, hfirst.calls, hmore.calls, List.append_nil]

/-- A request is taken as two requests for its parts. -/
theorem takes_append_iff {whole first second : ServerMessage} {before after : List ByteRange}
    (hrest : s.AtRest terms) (hwhole : Asks whole (before ++ after)) (hfirst : Asks first before)
    (hsecond : Asks second after) :
    Takes terms around s world [.message whole] asked t w ↔
      Takes terms around s world [.message first, .message second] asked t w := by
  rw [takes_singleton_iff, act_of_asks hrest hwhole, ← followedBy_followedBy,
    settles_followedBy_iff hsends, takes_cons_iff, act_of_asks hrest hfirst]
  refine exists_congr fun served => exists_congr fun more => exists_congr fun u =>
    exists_congr fun v => and_congr_right fun _ => and_congr_right fun hsettles => ?_
  -- The first request was taken, so the second one starts nothing.
  have hrank : 0 < u.phase.rank := by
    have hlater := hsettles.runs.path.rank_le
    rw [phase_followedBy] at hlater
    exact Nat.lt_of_lt_of_le (rank_phase_started s) hlater
  have hphase : u.phase ≠ .initSent := by
    intro hphase
    simp [hphase, Phase.rank] at hrank
  rw [takes_singleton_iff, act_of_asks hsettles.atRest hsecond, started_of_phase hphase]

end

/-- A request for ranges without a negative number. -/
theorem asks_bulkRetr {ranges : List (Int32 × Int32)}
    (h : ∀ range ∈ ranges, 0 ≤ range.1 ∧ 0 ≤ range.2) :
    Asks (.bulkRetr ranges) (ranges.map fun range => ⟨range.1, range.2⟩) where
  command := rfl
  stage := rfl
  ranges := ServerMessage.ranges_bulkRetr h

/-- A request for a single range that is set does what a request for many ranges does. -/
theorem step_retr {offset length : Int32} (h : ¬ (offset = 0 ∧ length = 0)) :
    s.step terms (.message (.retr offset length)) =
      s.step terms (.message (.bulkRetr [(offset, length)])) := by
  have hranges := ServerMessage.ranges_retr h
  have hhandle : s.handle (.retr offset length) = s.handle (.bulkRetr [(offset, length)]) := by
    simp only [handle, retrieve, hranges]
    rfl
  cases htask : s.task <;> simp [step, htask, hhandle]

/-- At any time when a session waits for the scanner or is over, in surroundings that send all
messages:

* one request for many ranges is taken as two requests for the first and the last of them, with the
  same reads, waits and messages in the same order and the same answers, up to the same session and
  the same surroundings, which may remember all that they were asked and told. In surroundings that
  keep time both come to rest within the budget;
* a request for a single range that is set, in the way of the old scanners, does what a request for
  many ranges does of which there is one. -/
theorem requests_can_be_split (terms : Terms) (around : Surroundings σ) (s : Session) (world : σ)
    (hsends : around.SendsAll) (hrest : s.AtRest terms) :
    (∀ first second : List (Int32 × Int32),
      (∀ range ∈ first ++ second, 0 ≤ range.1 ∧ 0 ≤ range.2) →
      (∀ asked t w,
        Takes terms around s world [.message (.bulkRetr (first ++ second))] asked t w ↔
          Takes terms around s world [.message (.bulkRetr first), .message (.bulkRetr second)]
            asked t w) ∧
      (∀ clock, around.KeepsTime clock → ∃ t w,
        s.receiveAll? terms around (budget terms) world
          [.message (.bulkRetr (first ++ second))] = some (t, w) ∧
        s.receiveAll? terms around (budget terms) world
          [.message (.bulkRetr first), .message (.bulkRetr second)] = some (t, w))) ∧
    (∀ offset length : Int32, ¬ (offset = 0 ∧ length = 0) →
      (∀ events asked t w,
        Takes terms around s world (.message (.retr offset length) :: events) asked t w ↔
          Takes terms around s world (.message (.bulkRetr [(offset, length)]) :: events)
            asked t w) ∧
      ∀ allowed, s.receive? terms around allowed world (.message (.retr offset length)) =
        s.receive? terms around allowed world (.message (.bulkRetr [(offset, length)]))) := by
  refine ⟨fun first second hranges => ?_, fun offset length hset => ?_⟩
  · have hsplit (asked t w) :
        Takes terms around s world [.message (.bulkRetr (first ++ second))] asked t w ↔
          Takes terms around s world [.message (.bulkRetr first), .message (.bulkRetr second)]
            asked t w := by
      have hwhole := asks_bulkRetr hranges
      rw [List.map_append] at hwhole
      exact takes_append_iff hsends hrest hwhole
        (asks_bulkRetr fun range hmem => hranges range (List.mem_append_left _ hmem))
        (asks_bulkRetr fun range hmem => hranges range (List.mem_append_right _ hmem))
    refine ⟨hsplit, fun clock hclock => ?_⟩
    have hsome (events) : ∃ last, s.receiveAll? terms around (budget terms) world events =
        some last := Option.isSome_iff_exists.1 (isSome_receiveAll? hclock events)
    obtain ⟨⟨t, w⟩, hwhole⟩ := hsome [.message (.bulkRetr (first ++ second))]
    obtain ⟨⟨t', w'⟩, hparts⟩ := hsome [.message (.bulkRetr first), .message (.bulkRetr second)]
    obtain ⟨asked, htakes⟩ := takes_of_receiveAll? hwhole
    obtain ⟨more, htakes'⟩ := takes_of_receiveAll? hparts
    obtain ⟨rfl, rfl⟩ := ((hsplit asked t w).1 htakes).unique htakes'
    exact ⟨t', w', hwhole, hparts⟩
  · have hact : s.act terms around world (.message (.retr offset length)) =
        s.act terms around world (.message (.bulkRetr [(offset, length)])) := by
      simp only [act, step_retr hset]
    refine ⟨fun events asked t w => ?_, fun allowed => ?_⟩
    · rw [takes_cons_iff, takes_cons_iff, hact]
    · simp only [receive?, hact]

/-- Surroundings that remember where they read. Only the first four bytes can be read. -/
def damaged : Surroundings (List UInt64) where
  read world offset capacity :=
    (if offset < 4 then .of (List.replicate capacity 0) else .failed .authFailed, world ++ [offset])
  waitForRoom world := (none, world)
  send world _ := (true, world)
  signal world _ := world

/-- Surroundings that always have room keep time without any. -/
theorem damaged_keepsTime : damaged.KeepsTime fun _ => 0 where
  read _ _ _ := Nat.le_refl _
  send _ _ := Nat.le_refl _
  signal _ _ := Nat.le_refl _
  room _ := Nat.le_refl _
  noRoom _ _ h := by cases h

/-- The second of three ranges cannot be read. The third one is not asked for, whether or not it
has a message of its own. -/
theorem requests_can_be_split_damaged :
    ∃ t, receiveAll? ⟨9, ⟨0⟩⟩ damaged (budget ⟨9, ⟨0⟩⟩) {} []
        [.message (.bulkRetr ([(0, 2), (5, 1)] ++ [(1, 1)]))] = some (t, [0, 5]) ∧
      receiveAll? ⟨9, ⟨0⟩⟩ damaged (budget ⟨9, ⟨0⟩⟩) {} []
        [.message (.bulkRetr [(0, 2), (5, 1)]), .message (.bulkRetr [(1, 1)])] =
          some (t, [0, 5]) ∧
      t.stats = ⟨1, 2⟩ ∧ t.outcome = some (.error .authFailed) := by
  obtain ⟨hsplit, -⟩ := requests_can_be_split ⟨9, ⟨0⟩⟩ damaged {} [] (fun _ _ => rfl) (.inl rfl)
  obtain ⟨-, hrest⟩ := hsplit [(0, 2), (5, 1)] [(1, 1)] (by simp)
  obtain ⟨t, w, hwhole, hparts⟩ := hrest _ damaged_keepsTime
  cases hwhole
  exact ⟨_, rfl, hparts, rfl, rfl⟩

end Session

end MalwareScan
