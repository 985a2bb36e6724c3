import MalwareScan.CommandLine.Program
import MalwareScan.Proofs.Batch.Runs

/-!
# The scans of a job

A job scans its targets as one batch, with a permit for each scan that may run at a time. The
scans may take their turns in any order; `Job.runBy` is the run in which they take them in the
order of the events. The main theorem, `scans_counted_once`, says what holds of every order, and
that the run does not depend on it but for the order of its lines. `Job.run` is one of these runs.
-/

namespace MalwareScan.CommandLine.Job

variable {platform : Platform} {job : Job} {target : Target}

/-! ## What comes of a scan -/

/-- The scan of the target comes to a verdict. -/
def Succeeds (platform : Platform) (job : Job) (target : Target) : Prop :=
  ∃ report, job.report? platform target = some report ∧ ∃ document, report.outcome = .ok document

/-- A scan is a failure unless it comes to a verdict. -/
theorem isFailure_ending_iff :
    (job.ending platform target).isFailure = false ↔ job.Succeeds platform target := by
  rw [ending, Succeeds]
  cases job.report? platform target with
  | none => exact iff_of_false (by simp [Ending.isFailure]) (by simp)
  | some report =>
      simp only [Option.some.injEq, exists_eq_left']
      cases report.outcome with
      | ok document => exact iff_of_true rfl ⟨document, rfl⟩
      | error e => exact iff_of_false (by simp [Ending.isFailure, Except.toBool]) (by simp)

/-- Whether a scan comes to a verdict can be told from how it ends. -/
instance : DecidablePred (job.Succeeds platform) :=
  fun _ => decidable_of_iff _ isFailure_ending_iff

/-- The number of targets whose scans come to no verdict. -/
def missed (platform : Platform) (job : Job) : Nat :=
  job.targets.countP fun target => ¬ job.Succeeds platform target

/-- Those are the scans that end by a failure or a crash. -/
theorem countP_endings :
    (job.endings platform).countP Ending.isFailure = job.missed platform := by
  rw [endings, List.countP_map, missed]
  refine List.countP_congr fun target _ => ?_
  rw [decide_eq_true_iff, ← isFailure_ending_iff, Bool.not_eq_false]
  rfl

/-- A job is an error exactly if some of its scans failed. -/
theorem conclude_code (job : Job) (output : List String) (failed : Nat) :
    (job.conclude output failed).code ≠ 0 ↔ 0 < failed := by
  rw [conclude]
  split
  case isTrue hnone => simp [Exit.success, hnone]
  case isFalse hsome => simp [Exit.failure, Nat.pos_of_ne_zero hsome]

/-! ## Orders of the scans -/

/-- In the events the scans of the job end as they do on the platform. -/
def Conforms (platform : Platform) (job : Job) (events : List BatchEvent) : Prop :=
  ∀ i ending, .finish i ending ∈ events → (job.endings platform)[i]? = some ending

/-- The items of a list at all places are those of the list. -/
theorem filterMap_range {α β : Type} (as : List α) (f : α → Option β) :
    ((List.range as.length).filterMap fun i => as[i]?.bind f) = as.filterMap f := by
  have hplaces : (List.range as.length).map (as[·]?) = as.map some := by
    refine List.ext_getElem (by simp) fun i hi _ => ?_
    have hlt : i < as.length := by simpa using hi
    simp [hlt]
  have hitems : ((List.range as.length).filterMap fun i => as[i]?.bind f) =
      ((List.range as.length).map (as[·]?)).filterMap (·.bind f) := by
    rw [List.filterMap_map]
    rfl
  rw [hitems, hplaces, List.filterMap_map]
  rfl

/-- All lines are printed once if all scans end once. -/
theorem output_perm {events : List BatchEvent}
    (h : (events.filterMap BatchEvent.finished?).Perm (List.range job.targets.length)) :
    (job.output platform events).Perm (job.targets.filterMap (job.line? platform)) := by
  rw [← filterMap_range]
  exact h.filterMap _

/-- A job ends by what its scans come to, in whatever order they take their turns: all lines are
printed, and the scans without a verdict are counted. -/
theorem runBy_of_isOver {events : List BatchEvent} {start b : Batch}
    (hnew : Batch.new? job.concurrency job.targets.length = some start)
    (hplay : start.play events = some b) (hover : b.isOver = true)
    (hconforms : job.Conforms platform events) :
    b.failed = job.missed platform ∧
      job.runBy platform events =
        job.conclude (job.output platform events) (job.missed platform) ∧
      (job.output platform events).Perm (job.targets.filterMap (job.line? platform)) := by
  have hlength : (job.endings platform).length = job.targets.length := List.length_map _
  have hfollows : b.Follows job.concurrency job.targets.length events :=
    (Batch.follows_of_new? hnew).play hplay
  have hfailed : b.failed = job.missed platform := by
    rw [← hlength] at hfollows
    rw [hfollows.failed, hfollows.scans_of_isOver hover hconforms, List.countP_map]
    exact countP_endings
  refine ⟨hfailed, ?_, output_perm (hfollows.perm_of_isOver hover)⟩
  simp only [runBy, hnew, Option.bind_some, hplay, hfailed]

/-- The scans of a job can be played one after the other, each with the end that it has. -/
theorem exists_play_oneByOne (hpos : 1 ≤ job.concurrency) (platform : Platform) :
    ∃ b, Batch.play ⟨job.concurrency, List.replicate job.targets.length .waiting, 0⟩
        (Batch.oneByOne 0 (job.endings platform)) = some b ∧ b.isOver = true ∧
      job.Conforms platform (Batch.oneByOne 0 (job.endings platform)) := by
  have hlength : (job.endings platform).length = job.targets.length := List.length_map _
  have hplay := Batch.play_oneByOne hpos (job.endings platform)
  rw [hlength] at hplay
  refine ⟨_, hplay, by simp [Batch.isOver], fun i ending hmem => ?_⟩
  obtain ⟨k, rfl, hk⟩ := Batch.exists_of_finish_mem_oneByOne hmem
  rwa [Nat.zero_add]

/-! ## The main theorem -/

/-- All that is known about the scans of a job, in whatever order they get their permits and end:

* no more of them run than may, none is stuck whatever the ends of the scans are, and they end after
  finitely many events. Then each target has been scanned once, and the failed and the crashed scans
  have been counted;
* on every platform, in each order in which the scans end as they do there, the count is the
  number of targets whose scans come to no verdict, the line of every other target is printed
  once, and the job is an error exactly if there is a target without a verdict;
* a run of the job is the one in such an order, and it is what a run of the program does that
  prepares the job. -/
theorem scans_counted_once (job : Job) (hpos : 1 ≤ job.concurrency)
    (hmax : job.concurrency ≤ Batch.maxPermits) :
    ∃ start, Batch.new? job.concurrency job.targets.length = some start ∧
      (∀ events b, start.play events = some b →
        b.running ≤ job.concurrency ∧
        events.length ≤ 3 * job.targets.length ∧
        (b.isOver = false → ∀ endingOf : Nat → Ending, ∃ event later, b.step? event = some later ∧
          ∀ i ending, event = .finish i ending → ending = endingOf i) ∧
        (b.isOver = true →
          (∀ event ∈ events, event.scan < job.targets.length) ∧
          (∀ i < job.targets.length, ∃ ending,
            events.filter (·.scan = i) = [.begin i, .finish i ending, .collect i]) ∧
          b.failed = (List.range job.targets.length).countP fun i =>
            .finish i .failed ∈ events ∨ .finish i .crashed ∈ events)) ∧
      ∀ platform,
        (∀ events b, start.play events = some b → b.isOver = true →
          job.Conforms platform events →
            b.failed = job.missed platform ∧
            (∃ lines, lines.Perm (job.targets.filterMap (job.line? platform)) ∧
              job.runBy platform events = job.conclude lines (job.missed platform)) ∧
            ((job.runBy platform events).code ≠ 0 ↔
              ∃ target ∈ job.targets, ¬ job.Succeeds platform target)) ∧
        (∃ events b, start.play events = some b ∧ b.isOver = true ∧
          job.Conforms platform events ∧ job.run platform = job.runBy platform events) ∧
        ∀ words arguments target, Request.ofArguments words = .scan arguments target →
          prepare platform arguments target = .ok (some job) →
            CommandLine.run platform words = job.run platform := by
  have hnew : Batch.new? job.concurrency job.targets.length =
      some ⟨job.concurrency, List.replicate job.targets.length .waiting, 0⟩ := if_pos hmax
  refine ⟨_, hnew, fun events b hplay => ?_,
    fun platform => ⟨fun events b hplay hover hconforms => ?_,
    ?_, fun words arguments target hrequest hprepared => ?_⟩⟩
  · have hfollows : b.Follows job.concurrency job.targets.length events :=
      (Batch.follows_of_new? hnew).play hplay
    refine ⟨hfollows.running_le, hfollows.length_le, hfollows.exists_step? hpos, fun hover => ?_⟩
    refine ⟨fun event => hfollows.scan_lt, fun i hi => ?_, hfollows.failed_of_isOver hover⟩
    obtain ⟨ending, -, hpast⟩ := hfollows.past_of_isOver hover hi
    exact ⟨ending, hpast⟩
  · obtain ⟨hfailed, hrun, hlines⟩ := runBy_of_isOver hnew hplay hover hconforms
    refine ⟨hfailed, ⟨_, hlines, hrun⟩, ?_⟩
    rw [hrun, conclude_code, missed, List.countP_pos_iff]
    simp only [decide_eq_true_iff]
  · obtain ⟨b, hplay, hover, hconforms⟩ := exists_play_oneByOne hpos platform
    exact ⟨_, b, hplay, hover, hconforms, rfl⟩
  · simp only [CommandLine.run, hrequest, hprepared]

/-- Two targets on one permit. -/
def sampleJob : Job where
  targets := [.file "a.bin", .file "b.bin"]
  connection := ⟨⟨"localhost", 50051⟩, none, none, ⟨"ApiKey k", "app"⟩, ⟨5000000000⟩⟩
  options := {}
  digest := true
  concurrency := 1

/-- The scan of one of them breaks down. -/
def samplePlatform : Platform where
  files := {}
  environment := fun _ => none
  scan _ _ _ target :=
    if target.displayName = "b.bin" then none
    else some { outcome := .ok "{}", elapsedMillis := 7 }

/-- The second scan begins first and crashes, then the first one succeeds. -/
def sampleEvents : List BatchEvent := [
  .begin 1, .finish 1 .crashed, .begin 0, .collect 1, .finish 0 .succeeded, .collect 0]

/-- One scan is counted in that order, and the job is an error. -/
theorem scans_counted_once_crash :
    1 ≤ sampleJob.concurrency ∧ sampleJob.concurrency ≤ Batch.maxPermits ∧
      ∃ start b, Batch.new? sampleJob.concurrency 2 = some start ∧
        start.play sampleEvents = some b ∧ b.isOver = true ∧
        sampleJob.Conforms samplePlatform sampleEvents ∧ b.failed = 1 ∧
        (sampleJob.runBy samplePlatform sampleEvents).code ≠ 0 := by
  have hpos : 1 ≤ sampleJob.concurrency := Nat.le_refl 1
  have hmax : sampleJob.concurrency ≤ Batch.maxPermits := by decide
  obtain ⟨start, hnew, -, hruns⟩ := scans_counted_once sampleJob hpos hmax
  obtain rfl : start = ⟨1, [.waiting, .waiting], 0⟩ := (Option.some.inj hnew).symm
  have hplay : Batch.play ⟨1, [.waiting, .waiting], 0⟩ sampleEvents =
    some ⟨1, [.collected .succeeded, .collected .crashed], 1⟩ := rfl
  have hconforms : sampleJob.Conforms samplePlatform sampleEvents := by
    intro i ending hmem
    rcases (by simpa [sampleEvents] using hmem :
      i = 1 ∧ ending = .crashed ∨ i = 0 ∧ ending = .succeeded) with ⟨rfl, rfl⟩ | ⟨rfl, rfl⟩
    all_goals decide
  obtain ⟨hends, -⟩ := hruns samplePlatform
  obtain ⟨-, -, hcode⟩ := hends _ _ hplay rfl hconforms
  have hmissed : ¬ sampleJob.Succeeds samplePlatform (.file "b.bin") := by decide
  exact ⟨hpos, hmax, _, _, hnew, hplay, rfl, hconforms, rfl,
    hcode.2 ⟨.file "b.bin", by decide, hmissed⟩⟩

end MalwareScan.CommandLine.Job
