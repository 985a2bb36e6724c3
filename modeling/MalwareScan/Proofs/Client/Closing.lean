import MalwareScan.Proofs.Client.Answers

/-!
# After a closing

A closing that finds no scan active returns in time. It does not see the scans that looked at the
client before it was closed and are not counted yet: these are counted later and open their calls on
a client that is closed. A scan that looks at the client later is refused. So nothing is active or
opened after the return exactly if there is no such scan (`closing_ends_scans_iff`).

The count does not show the sessions of scans that were dropped, either: they go on behind a closing
(`closing_leaves_session_behind`).
-/

namespace MalwareScan

namespace ScanStage

/-- The scan was let in and is not counted yet. -/
def isUncounted : ScanStage → Bool
  | accepted => true
  | _ => false

/-- The scan was let in and has not opened its call yet. -/
def isPending : ScanStage → Bool
  | accepted | counted => true
  | _ => false

/-- The scan was let in and has not left yet. -/
def isUnderWay (stage : ScanStage) : Bool :=
  stage.isUncounted || stage.isActive

/-- A scan under way is not counted yet, or it is active. -/
theorem isUnderWay_iff {stage : ScanStage} :
    stage.isUnderWay = true ↔ stage.isUncounted = true ∨ stage.isActive = true :=
  Bool.or_eq_true_iff

/-- Of the scans that are not active those are pending that are not counted yet. -/
theorem isPending_eq_isUncounted {stage : ScanStage} (h : stage.isActive = false) :
    stage.isPending = stage.isUncounted := by
  cases stage <;> first | rfl | cases h

end ScanStage

namespace History

variable {timeout : Duration} {client after : ClientState} {scan moved : Scan}
  {options : ScanOptions} {length : UInt64} {w next later : World} {j : Nat}

/-! ## Steps on a closed client -/

/-- On a closed client no scan is let in, and a call is opened only by a scan that was let in before
and has not opened one yet. -/
theorem step_of_closed (hclosed : client.closed = true) (stage : ScanStage) (event : ScanEvent) :
    ((stage.step options length client event).2.isUnderWay = true → stage.isUnderWay = true) ∧
      client.opens ≤ (stage.step options length client event).1.opens ∧
      (stage.step options length client event).1.opens +
          (if (stage.step options length client event).2.isPending then 1 else 0) ≤
        client.opens + if stage.isPending then 1 else 0 := by
  unfold ScanStage.step
  split
  case h_1 =>
    -- A scan that looks at a closed client is refused.
    have hcheck : checkScan client.closed options length = .error .cancelled :=
      (Refuses.cancelled hclosed).checkScan_eq
    rw [hcheck]
    exact ⟨nofun, Nat.le_refl _, Nat.le_refl _⟩
  case h_3 => exact ⟨fun _ => rfl, Nat.le_succ _, Nat.le_refl _⟩
  case h_7 => cases client.shutdown <;> exact ⟨fun _ => rfl, Nat.le_refl _, Nat.le_refl _⟩
  case h_8 outcome =>
    have hgone (last : Bool) :
        (if last then ScanStage.notifying outcome else .finished outcome).isPending = false := by
      cases last <;> rfl
    refine ⟨fun _ => rfl, Nat.le_refl _, ?_⟩
    show client.opens + (if _ then 1 else 0) ≤ client.opens + 0
    rw [hgone]
    exact Nat.le_refl _
  case h_9 | h_10 => exact ⟨nofun, Nat.le_refl _, Nat.le_refl _⟩
  case h_15 => exact ⟨id, Nat.le_refl _, Nat.le_refl _⟩
  all_goals exact ⟨fun _ => rfl, Nat.le_refl _, by simp [ScanStage.isPending]⟩

/-- The same holds of every move of a scan, and the client stays closed. -/
theorem Scan.Moves.of_closed (hclosed : client.closed = true)
    (hmoves : scan.Moves timeout client after moved) :
    after.closed = true ∧ (moved.stage.isUnderWay = true → scan.stage.isUnderWay = true) ∧
      client.opens ≤ after.opens ∧
      after.opens + (if moved.stage.isPending then 1 else 0) ≤
        client.opens + if scan.stage.isPending then 1 else 0 := by
  cases hmoves with
  | checked | next | opened | notOpened | completed | dropped =>
      exact ⟨(step_closed scan.stage _).1.trans hclosed, step_of_closed hclosed scan.stage _⟩
  | called => exact ⟨hclosed, id, Nat.le_refl _, Nat.le_refl _⟩

/-- A closing opens no call. -/
theorem close_opens (stage : CloseStage) (event : CloseEvent) :
    (stage.step client event).1.opens = client.opens := by
  unfold CloseStage.step
  split
  case h_4 => split <;> rfl
  all_goals rfl

/-! ## What comes of a closed client -/

/-- The number of scans that were let in and have not opened their calls yet. -/
def World.pending (w : World) : Nat :=
  w.scans.countP (·.stage.isPending)

/-- What holds of a world that comes of one with a closed client: the client stays closed, scans are
under way only if they were so before, and every call that is opened was pending. -/
structure World.Settles (w later : World) : Prop where
  closed : later.client.closed = true
  underWay : ∀ (i : Nat) scan, later.scans[i]? = some scan → scan.stage.isUnderWay = true →
    ∃ before, w.scans[i]? = some before ∧ before.stage.isUnderWay = true
  opens : w.client.opens ≤ later.client.opens
  pending : later.client.opens + later.pending ≤ w.client.opens + w.pending

/-- What a closed client has settled into goes on to settle. -/
theorem World.Settles.trans (h : w.Settles next) (hlater : next.Settles later) :
    w.Settles later where
  closed := hlater.closed
  underWay i scan hscan hunder := by
    obtain ⟨between, hbetween, hstill⟩ := hlater.underWay i scan hscan hunder
    exact h.underWay i between hbetween hstill
  opens := Nat.le_trans h.opens hlater.opens
  pending := Nat.le_trans hlater.pending h.pending

/-- Every step from a closed client keeps to that. -/
theorem Step.settles (hclosed : w.client.closed = true) (hstep : Step timeout w next) :
    w.Settles next := by
  cases hstep with
  | beginScan content options =>
      refine ⟨hclosed, fun i scan hscan hunder => ?_, Nat.le_refl _, Nat.le_of_eq ?_⟩
      · rcases Places.getElem?_concat_cases hscan with hold | rfl
        · exact ⟨scan, hold, hunder⟩
        · cases hunder
      · show w.client.opens + List.countP _ (w.scans ++ _) = _
        rw [List.countP_append]
        rfl
  | beginClosing =>
      exact ⟨hclosed, fun i scan hscan hunder => ⟨scan, hscan, hunder⟩, Nat.le_refl _,
        Nat.le_refl _⟩
  | @scan i scan client after hscan hmoves =>
      obtain ⟨hstays, hunder, hopens, hpending⟩ := hmoves.of_closed hclosed
      refine ⟨hstays, fun k other hother hstill => ?_, hopens, ?_⟩
      · rcases Places.getElem?_set_cases hother with ⟨rfl, rfl⟩ | ⟨-, hold⟩
        · exact ⟨scan, hscan, hunder hstill⟩
        · exact ⟨other, hold, hstill⟩
      · have hset := Places.countP_set_add after hscan (·.stage.isPending)
        show client.opens + (w.scans.set i after).countP _ ≤ w.client.opens + w.scans.countP _
        omega
  | @close j closing event hclosing =>
      refine ⟨(close_step closing.stage event).2.1 hclosed,
        fun i scan hscan hunder => ⟨scan, hscan, hunder⟩, Nat.le_of_eq ?_, Nat.le_of_eq ?_⟩
      · exact (close_opens closing.stage event).symm
      · show (closing.stage.step w.client event).1.opens + w.pending = _
        rw [close_opens]

/-- What comes of a closed client by any steps. -/
theorem settles (hclosed : w.client.closed = true) (h : History timeout w later) :
    w.Settles later := by
  induction h with
  | start =>
      exact ⟨hclosed, fun i scan hscan hunder => ⟨scan, hscan, hunder⟩, Nat.le_refl _,
        Nat.le_refl _⟩
  | step _ hstep ih => exact ih.trans (hstep.settles ih.closed)

/-! ## Closings that return in time -/

/-- The world after a step of the closing `j`. -/
def World.afterClosing (w : World) (j : Nat) (closing : Closing) (event : CloseEvent) : World :=
  { w with
    client := (closing.act w.client event).1
    closings := w.closings.set j (closing.act w.client event).2 }

/-- The closing `j` looks at the count, sees that no scan is active, and returns. -/
structure World.Returns (w : World) (j : Nat) (returned : World) : Prop where
  idle : w.client.scans.isIdle = true
  step : ∃ closing, w.closings[j]? = some closing ∧ closing.stage = .looking ∧
    returned = w.afterClosing j closing .next

/-- A closing stands at its start only as long as it had no step. -/
theorem Closing.act_of_start {closing : Closing} {event : CloseEvent}
    (h : (closing.act client event).2.stage = .start) :
    closing.stage = .start ∧ (closing.act client event).2 = closing := by
  obtain ⟨hstart, hsame⟩ := close_step_of_start h
  refine ⟨hstart, ?_⟩
  rw [Closing.act, hsame]
  simp

/-- A closing that changed the client is over in time if it was so before, or if it looks at the
count and sees that no scan is active. -/
theorem Closing.act_of_finished {closing : Closing} {event : CloseEvent}
    (hnew : closing.stage = .start → closing.touched = false)
    (htouched : (closing.act client event).2.touched = true)
    (h : (closing.act client event).2.stage = .finished true) :
    (closing.touched = true ∧ closing.stage = .finished true) ∨
      (closing.stage = .looking ∧ event = .next ∧ client.scans.isIdle = true) := by
  rcases close_step_of_finished h with ⟨hover, hsame⟩ | ⟨hstart, rfl, hclosed⟩ | hlooks
  · rw [Closing.act, hsame] at htouched
    exact .inl ⟨by simpa using htouched, hover⟩
  · -- One that finds the client closed is over at once, and changes nothing.
    have hunchanged : ({ client with closed := true } : ClientState) = client := by
      rw [← hclosed]
    simp [Closing.act, hstart, CloseStage.step, hnew hstart, hunchanged] at htouched
  · exact .inr hlooks

/-- A closing that has not begun changed nothing. -/
theorem touched_of_start {w : World} (h : History timeout {} w) {closing : Closing}
    (hmem : closing ∈ w.closings) (hstart : closing.stage = .start) : closing.touched = false := by
  induction h generalizing closing with
  | start => cases hmem
  | step _ hstep ih =>
      cases hstep with
      | beginScan | scan => exact ih hmem hstart
      | beginClosing =>
          rcases List.mem_append.1 hmem with hold | hnew
          · exact ih hold hstart
          · rw [List.mem_singleton.1 hnew]
      | close other event hother =>
          rcases List.mem_or_eq_of_mem_set hmem with hold | rfl
          · exact ih hold hstart
          · obtain ⟨hbefore, hsame⟩ := Closing.act_of_start hstart
            rw [hsame]
            exact ih (List.mem_of_getElem? hother) hbefore

/-- A closing that changed the client and is over in time has returned at some point. -/
theorem exists_returned {w : World} (h : History timeout {} w) {closing : Closing}
    (hclosing : w.closings[j]? = some closing) (htouched : closing.touched = true)
    (hfinished : closing.stage = .finished true) :
    ∃ seen returned, History timeout {} seen ∧ seen.Returns j returned ∧
      History timeout returned w := by
  induction h generalizing closing with
  | start => cases hclosing
  | @step w next hpast hstep ih =>
      have hlater {closing : Closing} (hclosing : w.closings[j]? = some closing)
          (htouched : closing.touched = true) (hfinished : closing.stage = .finished true) :
          ∃ seen returned, History timeout {} seen ∧ seen.Returns j returned ∧
            History timeout returned next := by
        obtain ⟨seen, returned, hseen, hreturns, hrest⟩ := ih hclosing htouched hfinished
        exact ⟨seen, returned, hseen, hreturns, hrest.step hstep⟩
      cases hstep with
      | beginScan | scan => exact hlater hclosing htouched hfinished
      | beginClosing =>
          rcases Places.getElem?_concat_cases hclosing with hold | rfl
          · exact hlater hold htouched hfinished
          · cases htouched
      | @close k other event hother =>
          rcases Places.getElem?_set_cases hclosing with ⟨rfl, rfl⟩ | ⟨-, hold⟩
          · have hnew := touched_of_start hpast (List.mem_of_getElem? hother)
            rcases Closing.act_of_finished hnew htouched hfinished with
              ⟨hbefore, hover⟩ | ⟨hlooking, rfl, hidle⟩
            · exact hlater hother hbefore hover
            · exact ⟨w, _, hpast, ⟨hidle, other, hother, hlooking, rfl⟩, .start⟩
          · exact hlater hold htouched hfinished

/-- A closing that looks at the count has closed the client. -/
theorem World.Returns.closed {seen returned : World} (h : History timeout {} seen)
    (hreturns : seen.Returns j returned) : returned.client.closed = true := by
  obtain ⟨closing, hclosing, hlooking, rfl⟩ := hreturns.step
  have hmem := List.mem_of_getElem? hclosing
  refine (close_step closing.stage .next).2.1 ?_
  rcases (sound h).closings with ⟨-, hnew⟩ | ⟨hclosed, -⟩
  · rw [hnew closing hmem] at hlooking
    cases hlooking
  · exact hclosed

/-- When a closing returns in time no scan is active. -/
theorem World.Returns.isActive_eq_false {seen returned : World} (h : History timeout {} seen)
    (hreturns : seen.Returns j returned) :
    ∀ scan ∈ returned.scans, scan.stage.isActive = false := by
  obtain ⟨closing, -, -, rfl⟩ := hreturns.step
  have hcount : seen.scans.countP (·.stage.isActive) = 0 := by
    rw [← (sound h).count]
    exact eq_of_beq hreturns.idle
  intro scan hmem
  simpa using List.countP_eq_zero.1 hcount scan hmem

/-- A scan that was let in and is not counted yet becomes active and opens its call by its next two
steps. -/
theorem exists_active_opened {i : Nat} (hscan : w.scans[i]? = some scan)
    (huncounted : scan.stage.isUncounted = true) :
    ∃ later, History timeout w later ∧ (∃ scan ∈ later.scans, scan.stage.isActive = true) ∧
      later.client.opens = w.client.opens + 1 := by
  have haccepted : scan.stage = .accepted := by
    cases hstage : scan.stage <;> rw [hstage] at huncounted <;> first | rfl | cases huncounted
  have hcounted (client : ClientState) : scan.act client .next =
      ({ client with scans := client.scans.enter }, { scan with stage := .counted }) := by
    simp [Scan.act, haccepted, ScanStage.step]
  have hopening (client : ClientState) : Scan.act { scan with stage := .counted } client .next =
      ({ client with opens := client.opens + 1 },
        { scan with stage := .opening, opens := scan.opens + 1 }) := by
    simp [Scan.act, ScanStage.step]
  have hfirst : scan.Moves timeout w.client _ _ := .next (by rw [haccepted]; intro h; cases h)
  rw [hcounted] at hfirst
  have hsecond (client : ClientState) :
      Scan.Moves timeout client { scan with stage := .counted } _ _ := .next fun h => by cases h
  simp only [hopening] at hsecond
  have hi := (List.getElem?_eq_some_iff.1 hscan).1
  have hcountedAt : (w.scans.set i { scan with stage := .counted })[i]? =
      some { scan with stage := .counted } := List.getElem?_set_self hi
  have hopeningAt : ((w.scans.set i { scan with stage := .counted }).set i
      { scan with stage := .opening, opens := scan.opens + 1 })[i]? =
        some { scan with stage := .opening, opens := scan.opens + 1 } :=
    List.getElem?_set_self (by rwa [List.length_set])
  exact ⟨_, (History.start.step (.scan hscan hfirst)).step (.scan hcountedAt (hsecond _)),
    ⟨_, List.mem_of_getElem? hopeningAt, rfl⟩, rfl⟩

/-- A closing that changed the client and is over in time returned at a moment when no scan was
active. From then on no scan is active and no call is opened, in any order of the steps to come,
exactly if no scan stood between its look at the client and the count. Each scan that does may
become active and open its call. In any case only such scans become active, and no more calls are
opened than there are of them. -/
theorem closing_ends_scans_iff (timeout : Duration) (w : World) (h : History timeout {} w) (j : Nat)
    (closing : Closing) (hclosing : w.closings[j]? = some closing)
    (htouched : closing.touched = true) (hfinished : closing.stage = .finished true) :
    ∃ seen returned, History timeout {} seen ∧ seen.Returns j returned ∧
      History timeout returned w ∧
      (∀ scan ∈ returned.scans, scan.stage.isActive = false) ∧
      ((∀ later, History timeout returned later →
          (∀ scan ∈ later.scans, scan.stage.isActive = false) ∧
            later.client.opens = returned.client.opens) ↔
        ∀ scan ∈ returned.scans, scan.stage.isUncounted = false) ∧
      (∀ scan ∈ returned.scans, scan.stage.isUncounted = true →
        ∃ later, History timeout returned later ∧
          (∃ scan ∈ later.scans, scan.stage.isActive = true) ∧
          later.client.opens = returned.client.opens + 1) ∧
      ∀ later, History timeout returned later →
        (∀ (i : Nat) scan, later.scans[i]? = some scan → scan.stage.isActive = true →
          ∃ before, returned.scans[i]? = some before ∧ before.stage.isUncounted = true) ∧
        later.client.opens ≤
          returned.client.opens + returned.scans.countP (·.stage.isUncounted) := by
  obtain ⟨seen, returned, hseen, hreturns, hrest⟩ := exists_returned h hclosing htouched hfinished
  have hidle := hreturns.isActive_eq_false hseen
  have hsettles {later : World} (hlater : History timeout returned later) :
      returned.Settles later := settles (hreturns.closed hseen) hlater
  have hpending : returned.pending = returned.scans.countP (·.stage.isUncounted) :=
    List.countP_congr fun scan hmem => by
      rw [ScanStage.isPending_eq_isUncounted (hidle scan hmem)]
  -- Whoever is under way later was so at the return, when nobody was active.
  have hbefore {later : World} (hlater : History timeout returned later) {i : Nat} {scan : Scan}
      (hscan : later.scans[i]? = some scan) (hactive : scan.stage.isActive = true) :
      ∃ before, returned.scans[i]? = some before ∧ before.stage.isUncounted = true := by
    obtain ⟨before, hbefore, hunder⟩ :=
      (hsettles hlater).underWay i scan hscan (ScanStage.isUnderWay_iff.2 (.inr hactive))
    rcases ScanStage.isUnderWay_iff.1 hunder with huncounted | hactive
    · exact ⟨before, hbefore, huncounted⟩
    · rw [hidle before (List.mem_of_getElem? hbefore)] at hactive
      cases hactive
  have hopens {later : World} (hlater : History timeout returned later) :
      later.client.opens ≤ returned.client.opens + returned.scans.countP (·.stage.isUncounted) := by
    have hbound := (hsettles hlater).pending
    omega
  have hopened (scan : Scan) (hmem : scan ∈ returned.scans)
      (huncounted : scan.stage.isUncounted = true) :
      ∃ later, History timeout returned later ∧
        (∃ scan ∈ later.scans, scan.stage.isActive = true) ∧
        later.client.opens = returned.client.opens + 1 := by
    obtain ⟨i, hscan⟩ := List.mem_iff_getElem?.1 hmem
    exact exists_active_opened hscan huncounted
  refine ⟨seen, returned, hseen, hreturns, hrest, hidle, ⟨fun hnever scan hmem => ?_,
    fun hnone later hlater => ⟨fun scan hmem => ?_, ?_⟩⟩, hopened, fun later hlater =>
      ⟨fun i scan hscan hactive => hbefore hlater hscan hactive, hopens hlater⟩⟩
  · refine eq_false_of_ne_true fun huncounted => ?_
    obtain ⟨later, hlater, ⟨active, hactive, hcounted⟩, -⟩ := hopened scan hmem huncounted
    rw [(hnever later hlater).1 active hactive] at hcounted
    cases hcounted
  · refine eq_false_of_ne_true fun hactive => ?_
    obtain ⟨i, hscan⟩ := List.mem_iff_getElem?.1 hmem
    obtain ⟨before, hreturned, huncounted⟩ := hbefore hlater hscan hactive
    rw [hnone before (List.mem_of_getElem? hreturned)] at huncounted
    cases huncounted
  · have hzero : returned.scans.countP (·.stage.isUncounted) = 0 :=
      List.countP_eq_zero.2 fun scan hmem => by simp [hnone scan hmem]
    have hle := hopens hlater
    rw [hzero] at hle
    exact Nat.le_antisymm hle (hsettles hlater).opens

/-- A scan looks at an open client; then the client is closed, and the closing returns before the
scan is counted. -/
theorem overlooked : History ⟨0⟩ {} ⟨{ closed := true, shutdown := true },
    [sampleScan .accepted 0 none], [⟨.finished true, true⟩]⟩ := by
  have hbegun : History ⟨0⟩ {} ⟨{}, [{ content := sampleContent, options := {} }], []⟩ :=
    .step .start (.beginScan sampleContent {})
  have haccepted : History ⟨0⟩ {} ⟨{}, [sampleScan .accepted 0 none], []⟩ :=
    hbegun.step (.scan (i := 0) rfl (.checked rfl))
  have hclosing : History ⟨0⟩ {}
      ⟨{ closed := true }, [sampleScan .accepted 0 none], [⟨.announcing, true⟩]⟩ :=
    (haccepted.step .beginClosing).step (.close (j := 0) {} .next rfl)
  have hannounced : History ⟨0⟩ {}
      ⟨{ closed := true, shutdown := true }, [sampleScan .accepted 0 none],
        [⟨.registering, true⟩]⟩ :=
    hclosing.step (.close (j := 0) ⟨.announcing, true⟩ .next rfl)
  have hlooking : History ⟨0⟩ {}
      ⟨{ closed := true, shutdown := true, scans := ⟨0, some false⟩ },
        [sampleScan .accepted 0 none], [⟨.looking, true⟩]⟩ :=
    hannounced.step (.close (j := 0) ⟨.registering, true⟩ .next rfl)
  exact hlooking.step (.close (j := 0) ⟨.looking, true⟩ .next rfl)

/-- After the closing that overlooked a scan, that scan may become active and open its call. -/
theorem closing_ends_scans_overlooked :
    ∃ returned, History ⟨0⟩ {} returned ∧
      (∀ scan ∈ returned.scans, scan.stage.isActive = false) ∧
      ∃ later, History ⟨0⟩ returned later ∧
        (∃ scan ∈ later.scans, scan.stage.isActive = true) ∧
        later.client.opens = returned.client.opens + 1 := by
  obtain ⟨seen, returned, hseen, ⟨hidle, step, hstep, hlooking, rfl⟩, hrest, hnone, -, hopened,
    hafter⟩ := closing_ends_scans_iff ⟨0⟩ _ overlooked 0 ⟨.finished true, true⟩ rfl rfl rfl
  have hcounted : History ⟨0⟩ _ ⟨{ closed := true, shutdown := true, scans := ⟨1, none⟩ },
      [sampleScan .counted 0 none], [⟨.finished true, true⟩]⟩ :=
    hrest.step (.scan (i := 0) rfl (.next nofun))
  obtain ⟨before, hbefore, huncounted⟩ := (hafter _ hcounted).1 0 _ rfl rfl
  exact ⟨_, hseen.step (.close step .next hstep), hnone,
    hopened before (List.mem_of_getElem? hbefore) huncounted⟩

/-- A closing that returned in time leaves a scan behind that looked at the client before it was
closed: this scan becomes active and opens its call. -/
theorem closing_leaves_scans_behind :
    ∃ w later, History ⟨0⟩ {} w ∧ w.closings.map (·.stage) = [.finished true] ∧
      History ⟨0⟩ w later ∧ later.client.scans.count = 1 ∧
      w.client.opens = 0 ∧ later.client.opens = 1 := by
  have hcounted : History ⟨0⟩
      ⟨{ closed := true, shutdown := true }, [sampleScan .accepted 0 none],
        [⟨.finished true, true⟩]⟩
      ⟨{ closed := true, shutdown := true, scans := ⟨1, none⟩ }, [sampleScan .counted 0 none],
        [⟨.finished true, true⟩]⟩ :=
    History.start.step (.scan (i := 0) rfl (.next nofun))
  exact ⟨_, _, overlooked, rfl, hcounted.step (.scan (i := 0) rfl (.next nofun)), rfl, rfl, rfl⟩

/-- A scan is dropped while its session is under way; then the client is closed, and the closing
returns at once. -/
theorem abandoned (line : Line)
    (hline : line = .opened (.new 1) (openingMessage sampleContent {})) :
    History ⟨0⟩ {} ⟨{ closed := true, shutdown := true, opens := 1 },
      [{ sampleScan (.finished ScanStage.abandoned) 1 (some (.ok { line })) with dropped := true }],
      [⟨.finished true, true⟩]⟩ := by
  subst hline
  have hbegun : History ⟨0⟩ {} ⟨{}, [{ content := sampleContent, options := {} }], []⟩ :=
    .step .start (.beginScan sampleContent {})
  have haccepted : History ⟨0⟩ {} ⟨{}, [sampleScan .accepted 0 none], []⟩ :=
    hbegun.step (.scan (i := 0) rfl (.checked rfl))
  have hopening : History ⟨0⟩ {}
      ⟨{ scans := ⟨1, none⟩, opens := 1 }, [sampleScan .opening 1 none], []⟩ :=
    (haccepted.step (.scan (i := 0) rfl (.next nofun))).step (.scan (i := 0) rfl (.next nofun))
  have hopened := hopening.step (.scan (i := 0) rfl (.opened (.new 1) rfl (Channel.isBlank_new 1)))
  have hdropped := hopened.step (.scan (i := 0) rfl (.dropped rfl))
  have hleft := (hdropped.step (.scan (i := 0) rfl (.next nofun))).step
    (.scan (i := 0) rfl (.next nofun))
  have hclosing := (hleft.step .beginClosing).step (.close (j := 0) {} .next rfl)
  have hannounced := hclosing.step (.close (j := 0) ⟨.announcing, true⟩ .next rfl)
  have hlooking := hannounced.step (.close (j := 0) ⟨.registering, true⟩ .next rfl)
  exact hlooking.step (.close (j := 0) ⟨.looking, true⟩ .next rfl)

/-- A scan that was dropped leaves its session behind, too. A closing finds no active scan and
returns in time, and after that the session still reads the content and sends it. -/
theorem closing_leaves_session_behind :
    ∃ w later call, History ⟨0⟩ {} w ∧ w.closings.map (·.stage) = [.finished true] ∧
      w.client.scans.count = 0 ∧ History ⟨0⟩ w later ∧
      later.scans.map (·.answer) = [some (.ok call)] ∧
      call.found.messages = [openingMessage sampleContent {}, .ofChunk 1 [2, 3]] := by
  -- The scanner asks for two bytes of the content.
  have hstart : Line.Runs ⟨3, ⟨0⟩⟩ sampleContent
      (.opened (.new 1) (openingMessage sampleContent {})) [] {} _ := .start
  have hread := ((hstart.say (.ok (.retr 1 2)) rfl).client none rfl rfl).client none rfl rfl
  have hsent := ((hread.receive.client none rfl rfl).client none rfl rfl).receive
  exact ⟨_, _, _, abandoned _ rfl, rfl, rfl,
    History.start.step (.scan (i := 0) rfl (.called rfl hsent)), rfl, rfl⟩

end History

end MalwareScan
