import MalwareScan.Proofs.Session.Outcome
import MalwareScan.Proofs.Wire.Ranges

/-!
# Malformed requests

A request for ranges is taken as a whole. If one of its ranges is bad, none is served: the session
ends at once and tells the scanner the reason, and its surroundings notice nothing else
(`receive?_of_ending`). The main theorem is `malformed_requests_rejected`.
-/

namespace MalwareScan.Session

open Wire (Command RangeFault ServerMessage Stage)

variable {σ : Type} {terms : Terms} {around : Surroundings σ} {allowed : Session → Nat}
  {s : Session} {world : σ} {m : ServerMessage}

/-- A request with a bad range is an ending. -/
theorem ofMessage?_of_spoils {fault : RangeFault} (hcommand : m.command = Command.retr.number)
    (hstage : m.stage = Stage.run.number) (h : m.Spoils fault) :
    Ending.ofMessage? m = some (.malformed fault) := by
  have hquit : Command.retr.number ≠ Command.quit.number := by decide
  simp [Ending.ofMessage?, hcommand, hstage, hquit, ServerMessage.ranges_eq_error_iff.2 h]

/-- A message that is an ending ends the session before it asks its surroundings for anything. They
only get the signals of the ending. -/
theorem receive?_of_ending {ending : Ending} (hopen : s.phase ≠ .done) (htask : s.task = .idle)
    (hending : Ending.ofMessage? m = some ending) :
    s.receive? terms around allowed world (.message m) =
      some (s.finish ending.outcome, ending.signals.foldl around.signal world) := by
  have hstep : s.step terms (.message m) = (s.finish ending.outcome, ending.signals) := by
    simp only [step, isDone, htask, beq_eq_false_iff_ne.2 hopen, Bool.false_eq_true, if_false,
      handle_of_ending hending]
  simp only [receive?, act, hstep]
  exact settle?_of_atRest (atRest_of_done rfl)

/-- A request for ranges, at any time when the session waits for the scanner, whatever its
surroundings are:

* its ranges are accepted exactly if it is well formed. Then they are the ranges that it states,
  each with the position and the size that are its numbers on the wire, and the session turns to
  them;
* otherwise there is one reason against it. The session is over at once, its statistics are what
  they were, and its outcome is the breach of the rules with this reason. The surroundings, which
  may remember all that they were asked, notice one thing, that the call is torn down for the
  reason, and nothing else whatever comes later. -/
theorem malformed_requests_rejected (terms : Terms) (s : Session) (m : ServerMessage)
    (hcommand : m.command = Command.retr.number) (hstage : m.stage = Stage.run.number)
    (hopen : s.isDone = false) (hrest : s.AtRest terms) :
    (m.WellFormed ↔ ∃ ranges, m.ranges = .ok ranges) ∧
    (∀ ranges, m.ranges = .ok ranges → ranges = m.stated ∧
      (∀ range ∈ ranges, (range.start.toNat : Int) = range.offset.toInt ∧
        (range.size.toNat : Int) = range.length.toInt) ∧
      s.step terms (.message m) = ({ s with phase := .running, task := .serve ranges }, [])) ∧
    (¬ m.WellFormed → ∃ fault, m.Spoils fault ∧ m.ranges = .error fault ∧
      ∀ (σ : Type) (around : Surroundings σ) (allowed : Session → Nat) (world torn : σ),
        torn = around.signal world (.abort ⟨.invalidArgument, fault.message⟩) →
        ∃ t, s.receive? terms around allowed world (.message m) = some (t, torn) ∧
          t.phase = .done ∧ t.stats = s.stats ∧
          t.outcome = some (.error (.protocol fault.message)) ∧
          ∀ more u w, Runs terms around t torn more u w → u = t ∧ w = torn) := by
  have hphase : s.phase ≠ .done := by simpa [isDone] using hopen
  have htask := task_of_atRest hphase hrest
  refine ⟨⟨fun h => ⟨_, ServerMessage.ranges_eq_ok_iff.2 ⟨h, rfl⟩⟩, ?_⟩, fun ranges h => ?_,
    fun h => ?_⟩
  · rintro ⟨ranges, h⟩
    exact (ServerMessage.ranges_eq_ok_iff.1 h).1
  · refine ⟨(ServerMessage.ranges_eq_ok_iff.1 h).2, fun range hmem => ?_, ?_⟩
    · have hvalid := ServerMessage.isValid_of_ranges h range hmem
      obtain ⟨hoffset, hlength⟩ := Wire.ByteRange.isValid_iff.1 hvalid
      rw [Wire.ByteRange.start_toNat hvalid, Wire.ByteRange.size_toNat hvalid]
      exact ⟨Int.toNat_of_nonneg hoffset, Int.toNat_of_nonneg hlength⟩
    · simp only [step, hopen, htask, Bool.false_eq_true, if_false]
      exact handle_of_asks ⟨hcommand, hstage, h⟩
  · obtain ⟨fault, hspoils⟩ := (ServerMessage.wellFormed_or_spoils m).resolve_left h
    refine ⟨fault, hspoils, ServerMessage.ranges_eq_error_iff.2 hspoils, ?_⟩
    rintro σ around allowed world _ rfl
    have hending := ofMessage?_of_spoils hcommand hstage hspoils
    exact ⟨_, receive?_of_ending hphase htask hending, rfl, rfl, rfl,
      fun more u w hrun => hrun.eq_of_done rfl⟩

/-- Surroundings that count what they are asked for, and collect the signals. -/
def counting : Surroundings (Nat × List Signal) where
  read world _ capacity := (.of (List.replicate capacity 0), world.1 + 1, world.2)
  waitForRoom world := (none, world.1 + 1, world.2)
  send world _ := (true, world.1 + 1, world.2)
  signal world signal := (world.1, world.2 ++ [signal])

/-- Of three ranges only the last one is bad. -/
theorem malformed_requests_rejected_last :
    ∃ t, receive? ⟨9, ⟨0⟩⟩ counting (fun _ => 0) {} (0, [])
        (.message (.bulkRetr [(0, 1), (2, 3), (4, -1)])) =
          some (t, 0, [.abort ⟨.invalidArgument, "invalid RETR range offset=4 length=-1"⟩]) ∧
      t.phase = .done ∧ t.stats = {} ∧
      t.outcome = some (.error (.protocol "invalid RETR range offset=4 length=-1")) := by
  obtain ⟨-, -, hrejected⟩ := malformed_requests_rejected ⟨9, ⟨0⟩⟩ {}
    (.bulkRetr [(0, 1), (2, 3), (4, -1)]) rfl rfl rfl (.inl rfl)
  obtain ⟨fault, hspoils, hranges, hall⟩ := hrejected fun h => by
    obtain ⟨ranges, hok⟩ : ∃ ranges, ServerMessage.ranges
        (.bulkRetr [(0, 1), (2, 3), (4, -1)]) = .ok ranges :=
      ⟨_, ServerMessage.ranges_eq_ok_iff.2 ⟨h, rfl⟩⟩
    cases hok
  obtain rfl : fault = .negative ⟨4, -1⟩ := by
    cases hranges
    rfl
  have htext : (RangeFault.negative ⟨4, -1⟩).message = "invalid RETR range offset=4 length=-1" := by
    decide
  obtain ⟨t, hreceive, hdone, hstats, houtcome, -⟩ := hall _ counting (fun _ => 0) (0, []) _ rfl
  rw [htext] at hreceive houtcome
  exact ⟨t, hreceive, hdone, hstats, houtcome⟩

end MalwareScan.Session
