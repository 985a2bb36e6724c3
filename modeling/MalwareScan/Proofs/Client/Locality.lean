import MalwareScan.Batch.Opening
import MalwareScan.Content.Buffer
import MalwareScan.Proofs.Client.Histories
import MalwareScan.Proofs.Remote.Failures

/-!
# Local failures

A cause that `Error.isLocal` accepts is meant to be found before any network activity. `Attempt`
says how a call for a scan ends, from the opening of its source on, and which uses it made of the
network until then.

A local cause is found when the source is opened, when the client looks at the tags and the length
of its content, or in the call to the scanner: then the transport itself gave it, or a read of the
content did (`ComesOfCall`), and contents of files, of buffers and behind locations do not
(`isLocal_eq_false_of_read`). To open a location that names an object takes a query, so that all
that is found later is found after it. The main theorem is `local_failures_before_network_iff`.
-/

namespace MalwareScan

open Files (FileSystem)
open Session (Turn)

/-- A use of the network: the query for the description of an object, the opening of a call to the
scanner, or the fetch of a range. -/
inductive NetworkUse where
  | query
  | call
  | fetch (first last : UInt64)
deriving DecidableEq

/-- What a scan is called for: a file, bytes in memory, the object at a location, an object that is
open already, or any other content. Files and servers may change while they are read: `later` tells
what they are at each read. -/
inductive Source where
  | file (fs : FileSystem) (later : Nat → FileSystem) (grants : Grants) (path : String)
    (digest : Bool)
  | buffer (data : Bytes) (name : String) (digest : Bool)
  | location (network : Network) (later : Nat → Network) (text : String) (digest : Bool)
  | remote (object : RemoteObject) (later : Nat → ObjectStore)
  | given (content : Content)

/-- Content that is open, and the range that a read of it fetches over the network. -/
structure Opened where
  content : Content
  range? : (offset : UInt64) → (capacity : Nat) → Option (UInt64 × UInt64) := fun _ _ => none

/-- The ranges that the turns of a session fetch. -/
def Opened.fetches (opened : Opened) (log : List Turn) : List NetworkUse :=
  log.filterMap fun turn =>
    match turn.1 with
    | .read offset capacity =>
      (opened.range? offset capacity).map fun (first, last) => .fetch first last
    | _ => none

/-- An open object over a store that may change. -/
def RemoteObject.opened (object : RemoteObject) (later : Nat → ObjectStore) : Opened where
  content :=
    { object.content (later 0) with read := fun earlier => object.read (later earlier) }
  range? := object.range?

namespace Source

/-- The source when it is opened. -/
def opened : Source → Outcome Opened
  | file fs later grants path digest =>
    (LocalFile.open fs grants path digest).map fun file =>
      { content :=
        { file.content fs grants with
          read := fun earlier => file.read ((later earlier).content file.file) grants } }
  | buffer data name digest => .ok { content := (Buffer.new data name digest).content }
  | location network later text digest => do
    let locator ← ObjectLocator.parse text
    let object ← RemoteObject.open locator.displayName (locator.store network) digest
    .ok (object.opened fun earlier => locator.store (later earlier))
  | remote object later => .ok (object.opened later)
  | given content => .ok { content }

/-- The source is a location, and it names an object. -/
def NamesObject : Source → Prop
  | location _ _ text _ => ∃ locator, ObjectLocator.parse text = .ok locator
  | file _ _ _ _ _ | buffer _ _ _ | remote _ _ | given _ => False

/-- The source is one that is opened for the scan, and not handed in from outside. -/
def IsOwn : Source → Prop
  | file _ _ _ _ _ | buffer _ _ _ | location _ _ _ _ => True
  | remote _ _ | given _ => False

/-- The uses of the network when the source is opened: a store is asked for the description of the
object that a location names. -/
def queries : Source → List NetworkUse
  | location _ _ text _ =>
    match ObjectLocator.parse text with
    | .ok _ => [.query]
    | .error _ => []
  | file _ _ _ _ _ | buffer _ _ _ | remote _ _ | given _ => []

end Source

/-- The source that a target is, as long as nothing changes. -/
def Target.source (fs : FileSystem) (network : Network) (digest : Bool) : Target → Source
  | .file path => .file fs (fun _ => fs) .whole path digest
  | .remote location => .location network (fun _ => network) location digest

namespace History

/-- The uses of the network in a scan of open content: the call to the scanner, and what its session
fetched. -/
def Scan.networkUses (scan : Scan) (opened : Opened) : List NetworkUse :=
  List.replicate scan.opens .call ++
    match scan.answer with
    | some (.ok call) => opened.fetches call.log
    | _ => []

/-- The cause comes out of the call to the scanner: the transport gave it, or a read of the content
that the session asked for. -/
inductive Scan.ComesOfCall (scan : Scan) (e : Error) : Prop where
  | transport (hanswer : scan.answer = some (.error e))
  | unreadable {call turn result} (hanswer : scan.answer = some (.ok call))
      (hturn : turn ∈ call.log) (hread : turn.2 = .read result)
      (hfailed : result.outcome = .error e)

end History

open History (Scan)

/-- A call for a scan of a source comes to its end, by itself: the source could not be opened, or
the scan of its content is finished, in any history of a client. The uses of the network until
then are in order. -/
inductive Attempt (timeout : Duration) (source : Source) (options : ScanOptions) :
    Option Scan → List NetworkUse → Outcome String → Prop where
  | unopened {e} (hopened : source.opened = .error e) :
      Attempt timeout source options none source.queries (.error e)
  | scanned {opened w scan outcome} (hopened : source.opened = .ok opened)
      (hworld : History timeout {} w) (hscan : scan ∈ w.scans)
      (hcontent : scan.content = opened.content) (hoptions : scan.options = options)
      (hkept : scan.dropped = false) (hfinished : scan.stage = .finished outcome) :
      Attempt timeout source options (some scan) (source.queries ++ scan.networkUses opened) outcome

variable {timeout : Duration} {source : Source} {options : ScanOptions} {opened : Opened}
  {network other : Network} {later : Nat → Network} {text : String} {digest : Bool} {e : Error}

/-! ## Opening a source -/

/-- A location that names an object is opened as far as it is described. -/
theorem Source.opened_location_of_ok {locator : ObjectLocator}
    (h : ObjectLocator.parse text = .ok locator) :
    (location network later text digest).opened =
      (locator.infoOf (network.head locator)).map fun info =>
        (RemoteObject.ofInfo locator.displayName digest info).opened fun earlier =>
          locator.store (later earlier) := by
  rw [opened, h, ← ObjectLocator.store_info]
  show ((locator.store network).info.bind _).bind _ = _
  cases (locator.store network).info <;> rfl

/-- The content of a target is that of its source. -/
theorem Target.opened_source (fs : FileSystem) (target : Target) :
    (target.source fs network digest).opened.map (·.content) =
      target.content fs network digest := by
  cases target with
  | file path =>
      simp only [source, Source.opened, content]
      cases LocalFile.open fs .whole path digest <;> rfl
  | remote text =>
      cases hparse : ObjectLocator.parse text with
      | error e =>
          rw [content, RemoteObject.openLocation_of_error hparse, source, Source.opened, hparse,
            ObjectLocator.eq_of_parse_eq_error hparse]
          rfl
      | ok locator =>
          rw [content, RemoteObject.openLocation_of_ok hparse, source,
            Source.opened_location_of_ok hparse]
          cases locator.infoOf (network.head locator) <;> rfl

/-- Opening uses the network exactly for a location that names an object. -/
theorem Source.queries_eq_nil_iff : source.queries = [] ↔ ¬ source.NamesObject := by
  cases source with
  | location network later text digest =>
      cases hparse : ObjectLocator.parse text <;> simp [queries, NamesObject, hparse]
  | file | buffer | remote | given => simp [queries, NamesObject]

/-- A network that knows no objects. -/
def Network.deserted : Network where
  head _ := .ok { status := 404 }
  get _ _ _ := .ok { status := 404 }

/-- A network on which all objects are empty. -/
def Network.hollow : Network where
  head _ := .ok { status := 200, headers := [("content-length", "0")] }
  get _ _ _ := .ok { status := 200 }

/-- On a network that knows no objects a location that names one is not opened. -/
theorem Source.opened_deserted {locator : ObjectLocator}
    (h : ObjectLocator.parse text = .ok locator) :
    (location .deserted later text digest).opened = .error (.fileNotFound locator.displayName) := by
  rw [opened_location_of_ok h]
  cases locator <;> rfl

/-- Without a query the opening comes to the same over all networks, and only then. -/
theorem Source.queries_eq_nil_iff_opened :
    (location network later text digest).queries = [] ↔
      ∀ other, (location other later text digest).opened =
        (location network later text digest).opened := by
  cases hparse : ObjectLocator.parse text with
  | error e =>
      simp only [queries, opened, hparse, true_iff]
      exact fun _ => rfl
  | ok locator =>
      simp only [queries, hparse, reduceCtorEq, false_iff]
      intro hsame
      have hdiffer := (hsame .hollow).trans (hsame .deserted).symm
      rw [opened_deserted hparse, opened_location_of_ok hparse] at hdiffer
      cases locator <;> cases hdiffer

/-! ## Reading -/

section

variable {earlier capacity : Nat} {offset : UInt64}

/-- A file that cannot be read fails for no local cause. -/
theorem LocalFile.isLocal_eq_false_of_read {file : LocalFile} {data : Bytes} {grants : Grants}
    (h : (file.read data grants offset capacity).outcome = .error e) : e.isLocal = false := by
  simp only [LocalFile.read, readOver] at h
  split at h
  · cases h
  · split at h
    · cases h
      rfl
    · cases h

/-- A range of an object at a location that cannot be fetched fails for no local cause. -/
theorem ObjectLocator.isLocal_eq_false_of_rangeOf {locator : ObjectLocator} {first last : UInt64}
    {exchange : Exchange} (h : rangeOf first last locator exchange = .error e) :
    e.isLocal = false := by
  cases locator
  -- In both stores there was no answer, its status was a bad one, or its body broke off.
  all_goals
    simp only [rangeOf, BucketObject.range, HttpObject.range, HttpObject.readError] at h
    split at h
    · cases h
      rfl
    · split at h
      · cases h
        rfl
      · split at h <;> cases h
        rfl

/-- A read of an open object fails for the cause for which its fetch does, or for no local one. -/
theorem RemoteObject.isLocal_eq_false_of_read {object : RemoteObject} {store : ObjectStore}
    (hstore : ∀ first last, store.fetch first last = .error e → e.isLocal = false)
    (h : (object.read store offset capacity).outcome = .error e) : e.isLocal = false := by
  unfold RemoteObject.read at h
  split at h
  · cases h
  · rename_i first last _
    unfold accept at h
    split at h
    · rename_i fault hfetch
      cases h
      exact hstore first last hfetch
    · simp only at h
      split at h
      · cases h
        rfl
      · cases h

/-- The contents of files, of buffers and behind locations are never unreadable for a local cause.
-/
theorem Source.isLocal_eq_false_of_read (hown : source.IsOwn) (hopened : source.opened = .ok opened)
    (h : (opened.content.read earlier offset capacity).outcome = .error e) : e.isLocal = false := by
  cases source with
  | file fs later grants path digest =>
      rw [Source.opened] at hopened
      cases hfile : LocalFile.open fs grants path digest with
      | error fault =>
          rw [hfile] at hopened
          cases hopened
      | ok file =>
          rw [hfile] at hopened
          cases hopened
          exact LocalFile.isLocal_eq_false_of_read h
  | buffer data name digest =>
      cases hopened
      cases h
  | location network later text digest =>
      cases hparse : ObjectLocator.parse text with
      | error fault =>
          simp only [Source.opened, hparse] at hopened
          cases hopened
      | ok locator =>
          rw [opened_location_of_ok hparse] at hopened
          cases hinfo : locator.infoOf (network.head locator) with
          | error fault =>
              rw [hinfo] at hopened
              cases hopened
          | ok info =>
              rw [hinfo] at hopened
              cases hopened
              refine RemoteObject.isLocal_eq_false_of_read (fun first last hfetch => ?_) h
              rw [ObjectLocator.store_fetch] at hfetch
              exact ObjectLocator.isLocal_eq_false_of_rangeOf hfetch
  | remote | given => exact hown.elim

end

/-- A session reads the content of its call, and nothing else. -/
theorem Line.Runs.read_eq {terms : Session.Terms} {content : Content} {start line : Line}
    {log : List Turn} {found : Found} (h : Runs terms content start log found line) :
    ∀ turn ∈ log, ∀ result, turn.2 = .read result →
      ∃ earlier offset capacity, result = content.read earlier offset capacity := by
  induction h with
  | start => exact fun turn hmem => absurd hmem List.not_mem_nil
  | @client log found line event next waited _ _ hnext ih =>
      intro turn hmem result hread
      rcases List.mem_append.1 hmem with hold | hnew
      · exact ih turn hold result hread
      · obtain rfl := List.mem_singleton.1 hnew
        cases hread
        unfold next? at hnext
        split at hnext
        · cases hnext
        · split at hnext
          · rename_i item _ _
            cases item <;> cases hnext
          · split at hnext <;> cases hnext
        · cases hnext
          exact ⟨_, _, _, rfl⟩
        · split at hnext
          · cases hnext
          · cases waited <;> cases hnext
        · split at hnext <;> cases hnext
  | hangUp _ _ ih | say _ _ _ ih | fallSilent _ ih | receive _ ih | stopReceiving _ ih
  | takeSignal _ ih => exact ih

/-! ## Local outcomes -/

/-- Of all endings only unreadable content makes a local cause the outcome of a session. -/
theorem Session.Ending.eq_unreadable_of_isLocal {ending : Ending} (h : ending.outcome = .error e)
    (hlocal : e.isLocal = true) : ending = .unreadable e := by
  cases ending with
  | unreadable fault =>
      cases h
      rfl
  | quit => cases h
  | failed status =>
      cases h
      unfold statusError at hlocal
      split at hlocal <;> cases hlocal
  | unknownCommand | outsideRun | malformed | late | closed =>
      cases h
      cases hlocal

/-- A session that ends for a local cause met it in a read. -/
theorem Session.Path.exists_read {terms : Terms} {log : List Turn} {s : Session}
    (h : Path terms {} log s) (houtcome : s.outcome = some (.error e)) (hlocal : e.isLocal = true) :
    ∃ turn ∈ log, ∃ result, turn.2 = .read result ∧ result.outcome = .error e := by
  rw [h.concluded.1, Option.map_eq_some_iff] at houtcome
  obtain ⟨ending, hfirst, hending⟩ := houtcome
  obtain ⟨turn, hmem, hturn⟩ := List.exists_of_findSome?_eq_some hfirst
  rw [Ending.eq_unreadable_of_isLocal hending hlocal] at hturn
  exact ⟨turn, hmem, Event.read_of_unreadable hturn⟩

namespace History

/-- A scan that ended by itself for a local cause was refused and has not used the network, or it
opened its call and the cause comes out of that. -/
theorem Scan.unused_or_comesOfCall {w : World} {scan : Scan} (hworld : History timeout {} w)
    (hscan : scan ∈ w.scans) (hkept : scan.dropped = false)
    (hfinished : scan.stage = .finished (.error e)) (hlocal : e.isLocal = true) :
    (scan.networkUses opened = [] ∧ ¬ scan.ComesOfCall e) ∨
      (.call ∈ scan.networkUses opened ∧ scan.ComesOfCall e) := by
  have hsound := (sound hworld).scans scan hscan
  have hknown : scan.stage.result? = some (.error e) := by rw [hfinished]; rfl
  have hcalled (hopens : scan.opens = 1) : .call ∈ scan.networkUses opened := by
    rw [networkUses, hopens]
    exact List.mem_cons_self
  rcases (stands_iff_concluded hknown).1 hsound.stands with ⟨hdropped, -⟩ | ⟨-, hreturns⟩
  · rw [hkept] at hdropped
    cases hdropped
  cases hreturns with
  | refused _ _ hopens hanswer =>
      refine .inl ⟨by rw [networkUses, hopens, hanswer]; rfl, ?_⟩
      rintro (htransport | ⟨hcall, -⟩)
      · cases hanswer.symm.trans htransport
      · cases hanswer.symm.trans hcall
  | notOpened _ hopens hanswer => exact .inr ⟨hcalled hopens, .transport hanswer⟩
  | @ended call _ _ hopens hanswer hsession =>
      obtain ⟨-, channel, -, hrun⟩ := hsound.call call hanswer
      obtain ⟨turn, hmem, result, hread, hfailed⟩ := (hrun.path rfl).exists_read hsession hlocal
      exact .inr ⟨hcalled hopens, .unreadable hanswer hmem hread hfailed⟩
  | cancelled => cases hlocal

/-- Over files, buffers and locations a local cause comes out of the call only if the transport gave
it. -/
theorem Scan.ComesOfCall.answer_eq {w : World} {scan : Scan} (h : scan.ComesOfCall e)
    (hworld : History timeout {} w) (hscan : scan ∈ w.scans) (hown : source.IsOwn)
    (hopened : source.opened = .ok opened) (hcontent : scan.content = opened.content)
    (hlocal : e.isLocal = true) : scan.answer = some (.error e) := by
  cases h with
  | transport hanswer => exact hanswer
  | @unreadable call turn result hanswer hturn hread hfailed =>
      obtain ⟨-, channel, -, hrun⟩ := ((sound hworld).scans scan hscan).call call hanswer
      obtain ⟨earlier, offset, capacity, rfl⟩ := hrun.read_eq turn hturn result hread
      rw [hcontent] at hfailed
      rw [source.isLocal_eq_false_of_read hown hopened hfailed] at hlocal
      cases hlocal

end History

/-! ## The main theorem -/

/-- However a call for a scan fails for a local cause, over any source, with any transport, any
answers of servers, any scanner and any other calls on the client:

* it has used the network for nothing exactly if its source is no location that names an object, and
  the cause did not come out of the call to the scanner;
* unless the cause came out of that call, the network was used to describe the object at most;
* over a file, a buffer or a location the cause comes out of that call only if the transport gave
  it.

For every location that names an object there is a network on which a call fails for a local cause
after the object was asked for. And a location is opened in the same way over all networks exactly
if the network is not used for it. The targets of a batch are such sources. -/
theorem local_failures_before_network_iff (timeout : Duration) (options : ScanOptions) :
    (∀ source scan? uses e, Attempt timeout source options scan? uses (.error e) →
      e.isLocal = true →
      (uses = [] ↔ ¬ source.NamesObject ∧ ∀ scan ∈ scan?, ¬ scan.ComesOfCall e) ∧
      ((∀ scan ∈ scan?, ¬ scan.ComesOfCall e) → uses = source.queries) ∧
      (source.IsOwn → ∀ scan ∈ scan?, scan.ComesOfCall e → scan.answer = some (.error e))) ∧
    (∀ later text digest, (∃ locator, ObjectLocator.parse text = .ok locator) →
      ∃ network e, e.isLocal = true ∧
        Attempt timeout (.location network later text digest) options none [.query] (.error e)) ∧
    (∀ network later text digest,
      (Source.location network later text digest).queries = [] ↔
        ∀ other, (Source.location other later text digest).opened =
          (Source.location network later text digest).opened) ∧
    (∀ fs network digest (target : Target),
      (target.source fs network digest).opened.map (·.content) =
        target.content fs network digest) := by
  refine ⟨fun source scan? uses e h hlocal => ?_, fun later text digest ⟨locator, hparse⟩ => ?_,
    fun _ _ _ _ => Source.queries_eq_nil_iff_opened, fun fs _ _ target => target.opened_source fs⟩
  · cases h with
    | unopened hopened =>
        refine ⟨?_, fun _ => rfl, fun _ scan hscan => absurd hscan (Option.not_mem_none scan)⟩
        rw [Source.queries_eq_nil_iff]
        exact ⟨fun hnone => ⟨hnone, fun scan hscan => absurd hscan (Option.not_mem_none scan)⟩,
          And.left⟩
    | @scanned opened w scan _ hopened hworld hscan hcontent hoptions hkept hfinished =>
        have hcause : (scan.networkUses opened = [] ∧ ¬ scan.ComesOfCall e) ∨
            (.call ∈ scan.networkUses opened ∧ scan.ComesOfCall e) :=
          Scan.unused_or_comesOfCall hworld hscan hkept hfinished hlocal
        simp only [Option.mem_some, forall_eq', List.append_eq_nil_iff, Source.queries_eq_nil_iff]
        refine ⟨?_, ?_, fun hown hcomes =>
          hcomes.answer_eq hworld hscan hown hopened hcontent hlocal⟩
        · rcases hcause with ⟨hunused, hnot⟩ | ⟨hcall, hcomes⟩
          · simp [hunused, hnot]
          · simp [hcomes, List.ne_nil_of_mem hcall]
        · intro hnot
          rcases hcause with ⟨hunused, -⟩ | ⟨-, hcomes⟩
          · rw [hunused, List.append_nil]
          · exact absurd hcomes hnot
  · have hqueries : (Source.location .deserted later text digest).queries = [.query] := by
      simp [Source.queries, hparse]
    have hattempt : Attempt timeout (.location .deserted later text digest) options none _ _ :=
      .unopened (Source.opened_deserted hparse)
    rw [hqueries] at hattempt
    exact ⟨.deserted, _, rfl, hattempt⟩

/-- Options with too many tags. -/
def manyTags : ScanOptions := { tags := List.replicate 9 "tag" }

/-- Too many tags are found before any network activity. -/
theorem local_failures_before_network_tags :
    ∃ scan uses, Attempt ⟨0⟩ (.buffer [1, 2, 3] "file" false) manyTags (some scan) uses
      (.error (.tooManyTags maxTags)) ∧ uses = [] := by
  have hbegun : History ⟨0⟩ {}
      ⟨{}, [{ content := (Buffer.new [1, 2, 3] "file" false).content, options := manyTags }], []⟩ :=
    .step .start (.beginScan _ _)
  have hrefused := hbegun.step (.scan (i := 0) rfl (.checked rfl))
  have hattempt : Attempt ⟨0⟩ (.buffer [1, 2, 3] "file" false) manyTags _ _
      (.error (.tooManyTags maxTags)) :=
    .scanned rfl hrefused (List.mem_singleton.2 rfl) rfl rfl rfl rfl
  obtain ⟨hlocal, -⟩ := local_failures_before_network_iff ⟨0⟩ manyTags
  refine ⟨_, _, hattempt, (hlocal _ _ _ _ hattempt rfl).1.2 ⟨id, fun scan hscan hcomes => ?_⟩⟩
  cases hscan
  rcases hcomes with hanswer | ⟨hanswer, -⟩ <;> cases hanswer

/-- A server that does not know an object was asked for it, and yet the cause is a local one. -/
theorem local_failure_after_query :
    Attempt ⟨0⟩ (.location .deserted (fun _ => .deserted) "https://h.example/k" false) {} none
        [.query] (.error (.fileNotFound "https://h.example/k")) ∧
      (Error.fileNotFound "https://h.example/k").isLocal = true :=
  ⟨.unopened rfl, rfl⟩

end MalwareScan
