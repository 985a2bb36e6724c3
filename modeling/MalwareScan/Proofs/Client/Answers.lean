import MalwareScan.Proofs.Client.Histories

/-!
# What a client answers for

In every history of a client each scan is admitted or refused when it looks at the client, opens
one call or none, and returns what belongs to that; its far side gets one opening message and then
chunks. The count is always the number of active scans, so that a scan that has returned left
nothing behind, and only one closing ever changes the client. The main theorem is
`client_answers_every_call`.
-/

namespace MalwareScan.History

variable {timeout : Duration} {client after : ClientState} {scan moved : Scan}

/-! ## The beginning of a scan -/

/-- A scan that is refused is over as soon as it looks at the client. -/
theorem Scan.moves_of_refuses {e : Error} (hstart : scan.stage = .start)
    (hrefuses : Refuses client.closed scan.options scan.content.length e) :
    scan.Moves timeout client client
      { scan with stage := .finished (.error e), sawClosed := some client.closed } := by
  have hact : scan.act client .next = (client, { scan with stage := .finished (.error e) }) := by
    simp [Scan.act, hstart, ScanStage.step, hrefuses.checkScan_eq]
  have hmoves : scan.Moves timeout client _ _ := .checked hstart
  rw [hact] at hmoves
  exact hmoves

/-- A scan of a history may move. -/
theorem exists_moved {start w : World} {i : Nat} (h : History timeout start w)
    (hscan : w.scans[i]? = some scan) (hmoves : scan.Moves timeout w.client after moved) :
    ∃ later, History timeout start later ∧ later.scans[i]? = some moved :=
  ⟨_, h.step (.scan hscan hmoves),
    List.getElem?_set_self (List.getElem?_eq_some_iff.1 hscan).1⟩

/-- A scan that is admitted needs nobody to open its call. -/
theorem exists_opened {start w : World} {i : Nat} (h : History timeout start w)
    (hscan : w.scans[i]? = some scan) (hstart : scan.stage = .start) (hopens : scan.opens = 0)
    (hadmits : Admits w.client.closed scan.options scan.content.length) :
    ∃ later after, History timeout start later ∧ later.scans[i]? = some after ∧
      after.opens = 1 := by
  -- The scan looks at the client, is counted, and opens its call.
  have hchecked : scan.act w.client .next = (w.client, { scan with stage := .accepted }) := by
    simp [Scan.act, hstart, ScanStage.step, hadmits.checkScan_eq]
  obtain ⟨w₁, h₁, hscan₁⟩ := exists_moved h hscan (.checked hstart)
  rw [hchecked] at hscan₁
  obtain ⟨w₂, h₂, hscan₂⟩ := exists_moved h₁ hscan₁ (.next (by simp))
  obtain ⟨w₃, h₃, hscan₃⟩ := exists_moved h₂ hscan₂ (.next (by simp [Scan.act, ScanStage.step]))
  refine ⟨w₃, _, h₃, hscan₃, ?_⟩
  simp [Scan.act, ScanStage.step, hopens]

/-! ## The count -/

/-- Scan `i` is among the active ones. -/
def World.isActive (w : World) (i : Nat) : Bool :=
  (w.scans[i]?).any (·.stage.isActive)

/-- The count depends only on which scans are active. -/
theorem count_eq_of_isActive {w later : World} (hw : w.Sound timeout) (hlater : later.Sound timeout)
    (h : ∀ i, w.isActive i = later.isActive i) :
    later.client.scans.count = w.client.scans.count := by
  rw [hw.count, hlater.count]
  exact (Places.countP_congr_getElem? h).symm

/-! ## All scans and closings -/

/-- In every history of a client, over any content, options and answers of the scanner:

* a scan opens at most one call, and none unless the client was open when it looked and its tags
  and its content are within the limits; a scan that returns was refused for the first reason
  against it, or returns why its call could not be opened, the outcome of its session, or that it
  was cancelled by the closing of the client;
* the far side of its call gets nothing, or first a message that describes the scan and then chunks;
* a scan that is refused is over at once, and one that is admitted gets to its call;
* the count is the number of active scans, and when a scan has returned it is what it was before the
  scan began, but for what other scans changed;
* at most one closing changes the client. Any other one has not begun, or it is over. -/
theorem client_answers_every_call (timeout : Duration) (w : World) (h : History timeout {} w) :
    (∀ scan ∈ w.scans,
      scan.opens ≤ 1 ∧ (scan.opens = 1 → scan.IsAdmitted) ∧
      (∀ outcome, scan.stage = .finished outcome → scan.dropped = false →
        scan.Returns w.client.closed outcome) ∧
      ∀ call, scan.answer = some (.ok call) →
        call.found.messages ++ call.line.channel.queue = [] ∨
        ∃ opening chunks, call.found.messages ++ call.line.channel.queue = opening :: chunks ∧
          Describes scan.content scan.options opening ∧ ∀ m ∈ chunks, IsChunk m) ∧
    (∀ (i : Nat) scan, w.scans[i]? = some scan → scan.stage = .start →
      (∀ e, Refuses w.client.closed scan.options scan.content.length e →
        scan.Moves timeout w.client w.client
          { scan with stage := .finished (.error e), sawClosed := some w.client.closed }) ∧
      (Admits w.client.closed scan.options scan.content.length →
        ∃ later after, History timeout w later ∧ later.scans[i]? = some after ∧
          after.opens = 1)) ∧
    w.client.scans.count = w.scans.countP (·.stage.isActive) ∧
    (∀ later (i : Nat) scan outcome, History timeout w later → later.scans[i]? = some scan →
      scan.stage = .finished outcome →
      (∀ before, w.scans[i]? = some before → before.stage = .start) →
      (∀ j, j ≠ i → w.isActive j = later.isActive j) →
      later.client.scans.count = w.client.scans.count) ∧
    ∃ first : Nat, ∀ j closing, w.closings[j]? = some closing → j ≠ first →
      closing.touched = false ∧ (closing.stage = .start ∨ closing.stage = .finished true) := by
  have hsound := sound h
  refine ⟨fun scan hmem => ?_, fun i scan hscan hstart => ?_, hsound.count, ?_, ?_⟩
  · obtain ⟨hstands, hcall⟩ := hsound.scans scan hmem
    refine ⟨hstands.opens_le.1, hstands.opens_le.2, fun outcome hfinished hkept => ?_,
      fun call hanswer => ?_⟩
    · have hknown : scan.stage.result? = some outcome := by
        rw [hfinished]
        rfl
      rcases (Scan.stands_iff_concluded hknown).1 hstands with ⟨hdropped, -⟩ | ⟨-, hreturns⟩
      · rw [hkept] at hdropped
        cases hdropped
      · exact hreturns
    · obtain ⟨⟨-, hadmits⟩, channel, hblank, hrun⟩ := hcall call hanswer
      rcases hrun.messages_opened hblank with hnothing | ⟨chunks, hmessages, hchunks⟩
      · exact .inl hnothing
      · exact .inr ⟨_, chunks, hmessages, describes_openingMessage hadmits.size, hchunks⟩
  · refine ⟨fun e => Scan.moves_of_refuses hstart, fun hadmits => ?_⟩
    obtain ⟨-, hopens, -⟩ := (hsound.scans scan (List.mem_of_getElem? hscan)).stands.at hstart
    exact exists_opened .start hscan hstart hopens hadmits
  · intro later i scan outcome hlater hscan hfinished hbefore hothers
    refine count_eq_of_isActive hsound (sound (h.trans hlater)) fun j => ?_
    by_cases hj : j = i
    · subst hj
      have hnone : w.isActive j = false := by
        unfold World.isActive
        cases hold : w.scans[j]? with
        | none => rfl
        | some before =>
            rw [Option.any_some, hbefore before hold]
            rfl
      rw [hnone, World.isActive, hscan, Option.any_some, hfinished]
      rfl
    · exact hothers j hj
  · rcases hsound.closings with ⟨-, hnew⟩ | ⟨-, first, hidle⟩
    · refine ⟨0, fun j closing hclosing _ => ?_⟩
      rw [hnew closing (List.mem_of_getElem? hclosing)]
      exact ⟨rfl, .inl rfl⟩
    · refine ⟨first, fun j closing hclosing hother => ?_⟩
      have h := hidle j closing hclosing hother
      exact ⟨h.touched, h.stage⟩

/-- Three bytes. -/
def sampleContent : Content := (Buffer.new [1, 2, 3] "file" false).content

/-- A scan of them that was admitted. -/
def sampleScan (stage : ScanStage) (opens : Nat) (answer : Option (Except Error ScanCall)) : Scan :=
  { content := sampleContent, options := {}, stage, sawClosed := some false, opens, answer }

/-- A scan that ends with a result, two closings, of which the second one changes nothing, and a
scan that is refused. -/
theorem client_answers_until_closed :
    ∃ w call, History ⟨0⟩ {} w ∧
      (∃ scan ∈ w.scans, scan.stage = .finished (.ok "clean") ∧ scan.answer = some (.ok call) ∧
        scan.opens = 1 ∧ scan.Returns true (.ok "clean")) ∧
      (∃ scan ∈ w.scans, scan.stage = .finished (.error .cancelled) ∧ scan.opens = 0 ∧
        scan.Returns true (.error .cancelled)) ∧
      call.found.messages = [openingMessage sampleContent {}, .ofChunk 1 [2, 3]] ∧
      Describes sampleContent {} (openingMessage sampleContent {}) ∧
      w.closings.map (·.touched) = [true, false] ∧ w.client.scans.count = 0 := by
  have hbegun : History ⟨0⟩ {} ⟨{}, [{ content := sampleContent, options := {} }], []⟩ :=
    .step .start (.beginScan sampleContent {})
  have haccepted : History ⟨0⟩ {} ⟨{}, [sampleScan .accepted 0 none], []⟩ :=
    hbegun.step (.scan (i := 0) rfl (.checked rfl))
  have hcounted : History ⟨0⟩ {} ⟨{ scans := ⟨1, none⟩ }, [sampleScan .counted 0 none], []⟩ :=
    haccepted.step (.scan (i := 0) rfl (.next nofun))
  have hopening : History ⟨0⟩ {}
      ⟨{ scans := ⟨1, none⟩, opens := 1 }, [sampleScan .opening 1 none], []⟩ :=
    hcounted.step (.scan (i := 0) rfl (.next nofun))
  have hopened : History ⟨0⟩ {} ⟨{ scans := ⟨1, none⟩, opens := 1 },
      [sampleScan .scanning 1 (some (.ok
        { line := .opened (.new 1) (openingMessage sampleContent {}) }))], []⟩ :=
    hopening.step (.scan (i := 0) rfl (.opened (.new 1) rfl (Channel.isBlank_new 1)))
  -- The scanner asks for two bytes and gives the result.
  have hstart : Line.Runs ⟨3, ⟨0⟩⟩ sampleContent
      (.opened (.new 1) (openingMessage sampleContent {})) [] {} _ := .start
  have hread := ((hstart.say (.ok (.retr 1 2)) rfl).client none rfl rfl).client none rfl rfl
  have hsent := (hread.receive.client none rfl rfl).client none rfl rfl
  have hquit := ((hsent.receive.say (.ok (.quit "clean")) rfl).client none rfl rfl).hangUp rfl
  have hcalled : ∃ call : ScanCall, call.line.session.completion = .ok "clean" ∧
      call.line.session.phase = .done ∧ call.line.listening = false ∧
      call.found.messages = [openingMessage sampleContent {}, .ofChunk 1 [2, 3]] ∧
      History ⟨0⟩ {} ⟨{ scans := ⟨1, none⟩, opens := 1 },
        [sampleScan .scanning 1 (some (.ok call))], []⟩ :=
    ⟨_, rfl, rfl, rfl, rfl, hopened.step (.scan (i := 0) rfl (.called rfl hquit))⟩
  obtain ⟨call, hresult, hdone, hgone, hmessages, hcalled⟩ := hcalled
  have hleaving : History ⟨0⟩ {} ⟨{ scans := ⟨1, none⟩, opens := 1 },
      [sampleScan (.leaving (.ok "clean")) 1 (some (.ok call))], []⟩ := by
    rw [← hresult]
    exact hcalled.step (.scan (i := 0) rfl (.completed rfl rfl hdone hgone))
  have hfinished : History ⟨0⟩ {} ⟨{ opens := 1 },
      [sampleScan (.finished (.ok "clean")) 1 (some (.ok call))], []⟩ :=
    (hleaving.step (.scan (i := 0) rfl (.next nofun))).step (.scan (i := 0) rfl (.next nofun))
  have hclosing : History ⟨0⟩ {} ⟨{ closed := true, opens := 1 },
      [sampleScan (.finished (.ok "clean")) 1 (some (.ok call))], [⟨.announcing, true⟩]⟩ :=
    (hfinished.step .beginClosing).step (.close (j := 0) {} .next rfl)
  have hregistering : History ⟨0⟩ {} ⟨{ closed := true, shutdown := true, opens := 1 },
      [sampleScan (.finished (.ok "clean")) 1 (some (.ok call))], [⟨.registering, true⟩]⟩ :=
    hclosing.step (.close (j := 0) ⟨.announcing, true⟩ .next rfl)
  have hlooking : History ⟨0⟩ {}
      ⟨{ closed := true, shutdown := true, scans := ⟨0, some false⟩, opens := 1 },
      [sampleScan (.finished (.ok "clean")) 1 (some (.ok call))], [⟨.looking, true⟩]⟩ :=
    hregistering.step (.close (j := 0) ⟨.registering, true⟩ .next rfl)
  have hclosed : History ⟨0⟩ {} ⟨{ closed := true, shutdown := true, opens := 1 },
      [sampleScan (.finished (.ok "clean")) 1 (some (.ok call))], [⟨.finished true, true⟩]⟩ :=
    hlooking.step (.close (j := 0) ⟨.looking, true⟩ .next rfl)
  have hagain : History ⟨0⟩ {} ⟨{ closed := true, shutdown := true, opens := 1 },
      [sampleScan (.finished (.ok "clean")) 1 (some (.ok call))],
      [⟨.finished true, true⟩, ⟨.finished true, false⟩]⟩ :=
    (hclosed.step .beginClosing).step (.close (j := 1) {} .next rfl)
  have hrefused : History ⟨0⟩ {} ⟨{ closed := true, shutdown := true, opens := 1 },
      [sampleScan (.finished (.ok "clean")) 1 (some (.ok call)),
        { content := sampleContent, options := {}, stage := .finished (.error .cancelled)
          sawClosed := some true }],
      [⟨.finished true, true⟩, ⟨.finished true, false⟩]⟩ :=
    (hagain.step (.beginScan sampleContent {})).step (.scan (i := 1) rfl (.checked rfl))
  obtain ⟨hscans, -, hcount, -⟩ := client_answers_every_call ⟨0⟩ _ hrefused
  obtain ⟨-, -, hfirst, hfirstCall⟩ := hscans _ (List.mem_cons_self ..)
  obtain ⟨-, -, hsecond, -⟩ := hscans _ (List.mem_cons_of_mem _ (List.mem_cons_self ..))
  have hdescribes : Describes sampleContent {} (openingMessage sampleContent {}) := by
    rcases hfirstCall call rfl with hnothing | ⟨opening, chunks, hall, hdescribes, -⟩
    · rw [hmessages] at hnothing
      cases hnothing
    · rw [hmessages] at hall
      cases hall
      exact hdescribes
  exact ⟨_, call, hrefused,
    ⟨_, List.mem_cons_self .., rfl, rfl, rfl, hfirst _ rfl rfl⟩,
    ⟨_, List.mem_cons_of_mem _ (List.mem_cons_self ..), rfl, rfl, hsecond _ rfl rfl⟩,
    hmessages, hdescribes, rfl, hcount⟩

end MalwareScan.History
