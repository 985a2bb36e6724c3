import MalwareScan.Proofs.Remote.Redaction
import MalwareScan.Remote.Open

/-!
# What failures tell of a location

Neither the objects that can be opened nor the causes of failures depend on the query and the
fragment of a location. The texts of failures do: a location that names no object is reported as
it is, and an exchange without an answer is reported with the URL that was asked for. `told` is
what a failure tells in this way. The main theorem is `failures_tell_the_same_iff`.
-/

namespace MalwareScan

open Url (isMark NoMarks)

/-- What comes of a request, whatever URL is asked for: an answer, or a failure, with the texts in
front of the URL and behind it. -/
abbrev Reply := Except (String × String) Response

namespace ObjectLocator

/-- The URL that is asked for an object, as failures tell it. Those of buckets tell none. -/
def requestText : ObjectLocator → String
  | s3 _ _ => ""
  | url u => u.text

/-- The exchange that a reply makes for an object. -/
def exchange (locator : ObjectLocator) : Reply → Exchange
  | .ok response => .ok response
  | .error (front, back) => .error (front ++ locator.requestText ++ back)

/-- What the failure of a request for an object tells: the URL that is asked for, if there is no
answer. -/
def asked (locator : ObjectLocator) (reply : ObjectLocator → Reply) : String :=
  match reply locator.redacted with
  | .error _ => locator.requestText
  | .ok _ => ""

/-- What the failure of a request tells of a location beyond what is shown of it: all of it if it
names no object. -/
def told (reply : ObjectLocator → Reply) (location : String) : String :=
  match parse location with
  | .error _ => location
  | .ok locator => locator.asked reply

end ObjectLocator

/-- A network in which what comes of a request does not depend on the query and the fragment. A
failed exchange tells the URL that was asked for. -/
def Network.telling (head : ObjectLocator → Reply)
    (get : ObjectLocator → (first last : UInt64) → Reply) : Network where
  head locator := locator.exchange (head locator.redacted)
  get locator first last := locator.exchange (get locator.redacted first last)

/-! ## Texts of failures -/

/-- Two failures have the same cause, and their texts differ exactly if two other texts do. -/
structure DifferBy (e e' : Error) (text text' : String) : Prop where
  code : e.code = e'.code
  message : e.message = e'.message ↔ text = text'

namespace DifferBy

variable {e e' : Error} {text text' : String}

/-- Equal failures differ by equal texts. -/
theorem of_eq (he : e = e') (htext : text = text') : DifferBy e e' text text' := by
  subst he htext
  exact ⟨rfl, iff_of_true rfl rfl⟩

/-- Texts between the same two texts differ exactly if they do. -/
theorem append_inj (front back : String) :
    front ++ text ++ back = front ++ text' ++ back ↔ text = text' := by
  rw [String.append_left_inj, String.append_right_inj]

/-- A location that is not found is told as it is. -/
theorem fileNotFound (text text' : String) :
    DifferBy (.fileNotFound text) (.fileNotFound text') text text' := by
  constructor
  · unfold Error.code
    rfl
  · unfold Error.message
    exact append_inj _ _

/-- So is the text of an unexpected failure. -/
theorem unexpected (front back text text' : String) :
    DifferBy (.unexpected (front ++ text ++ back)) (.unexpected (front ++ text' ++ back)) text
      text' := by
  constructor
  · unfold Error.code
    rfl
  · unfold Error.message
    dsimp only
    rw [String.append_right_inj, append_inj]

/-- So is that of a failed read. -/
theorem readError (front back text text' : String) :
    DifferBy (HttpObject.readError (front ++ text ++ back))
      (HttpObject.readError (front ++ text' ++ back)) text text' := by
  unfold HttpObject.readError
  constructor
  · unfold Error.code
    rfl
  · unfold Error.message
    dsimp only
    rw [String.append_right_inj, append_inj]

end DifferBy

/-! ## Failures of stores -/

namespace HttpObject

variable {u u' : Url}

/-- URLs that differ in their queries are shown in the same way. -/
theorem shownUrl_congr (h : u.redacted = u'.redacted) : shownUrl ⟨u⟩ = shownUrl ⟨u'⟩ :=
  congrArg Url.text h

/-- What is made of an exchange for the headers does not depend on the query. -/
theorem info_congr (h : u.redacted = u'.redacted) (exchange : Exchange) :
    info ⟨u⟩ exchange = info ⟨u'⟩ exchange := by
  unfold info
  rw [shownUrl_congr h]

/-- Nor is what is made of an exchange for a range. -/
theorem range_congr (h : u.redacted = u'.redacted) (first last : UInt64) (exchange : Exchange) :
    range ⟨u⟩ first last exchange = range ⟨u'⟩ first last exchange := by
  unfold range
  rw [shownUrl_congr h]

end HttpObject

namespace ObjectLocator

variable {location location' a q q' : String} {c c' : Char} {locator locator' : ObjectLocator}
  {reply : ObjectLocator → Reply} {e e' : Error}

/-- Objects that differ in their queries are in the same bucket, or behind URLs that differ there.
-/
theorem eq_or_url_of_redacted_eq (h : locator.redacted = locator'.redacted) :
    locator = locator' ∧ (∃ bucket key, locator = .s3 bucket key) ∨
      ∃ u u', locator = .url u ∧ locator' = .url u' ∧ u.redacted = u'.redacted := by
  cases locator with
  | s3 bucket key =>
      cases locator' with
      | s3 => exact .inl ⟨by simpa [redacted] using h, _, _, rfl⟩
      | url => cases h
  | url u =>
      cases locator' with
      | s3 => cases h
      | url u' => exact .inr ⟨u, u', rfl, rfl, by simpa [redacted] using h⟩

/-- A reply makes of requests that differ in their queries failures that differ by what they tell.
-/
theorem differBy_of_respond {α : Type} {respond : ObjectLocator → Exchange → Outcome α}
    (hcongr : ∀ u u' exchange, u.redacted = u'.redacted →
      respond (.url u) exchange = respond (.url u') exchange)
    (hbroken : ∀ u u' front back e e', u.redacted = u'.redacted →
      respond (.url u) (.error (front ++ u.text ++ back)) = .error e →
      respond (.url u') (.error (front ++ u'.text ++ back)) = .error e' →
      DifferBy e e' u.text u'.text)
    (h : locator.redacted = locator'.redacted)
    (he : respond locator (locator.exchange (reply locator.redacted)) = .error e)
    (he' : respond locator' (locator'.exchange (reply locator'.redacted)) = .error e') :
    DifferBy e e' (locator.asked reply) (locator'.asked reply) := by
  rcases eq_or_url_of_redacted_eq h with ⟨rfl, -⟩ | ⟨u, u', rfl, rfl, hu⟩
  · rw [he, Except.error.injEq] at he'
    exact .of_eq he' rfl
  -- The reply is the same for both URLs. Only one without an answer is told with the URL.
  rw [← h] at he'
  unfold asked
  rw [← h]
  cases hreply : reply (url u).redacted with
  | ok response =>
      rw [hreply] at he he'
      rw [hcongr u u' _ hu, exchange] at he
      rw [exchange, he, Except.error.injEq] at he'
      exact .of_eq he' rfl
  | error texts =>
      obtain ⟨front, back⟩ := texts
      rw [hreply] at he he'
      exact hbroken u u' front back e e' hu he he'

/-- The description of an object that an exchange gives. -/
def infoOf : ObjectLocator → Exchange → Outcome ObjectInfo
  | s3 bucket key => (BucketObject.mk bucket key).info
  | url u => (HttpObject.mk u).info

/-- The bytes of an object that an exchange gives. -/
def rangeOf (first last : UInt64) : ObjectLocator → Exchange → Outcome Bytes
  | s3 bucket key => (BucketObject.mk bucket key).range first last
  | url u => (HttpObject.mk u).range first last

/-- The description of an object comes from one exchange. -/
theorem store_info (locator : ObjectLocator) (network : Network) :
    (locator.store network).info = locator.infoOf (network.head locator) := by
  cases locator <;> rfl

/-- So do the bytes of a range. -/
theorem store_fetch (locator : ObjectLocator) (network : Network) (first last : UInt64) :
    (locator.store network).fetch first last =
      rangeOf first last locator (network.get locator first last) := by
  cases locator <;> rfl

/-- Whether an object is described, and how, does not depend on the query. -/
theorem toOption_infoOf (h : locator.redacted = locator'.redacted) :
    (locator.infoOf (locator.exchange (reply locator.redacted))).toOption =
      (locator'.infoOf (locator'.exchange (reply locator'.redacted))).toOption := by
  rcases eq_or_url_of_redacted_eq h with ⟨rfl, -⟩ | ⟨u, u', rfl, rfl, hu⟩
  · rfl
  -- The same answer describes the same object; without one there is no description.
  rw [← h]
  cases reply (url u).redacted with
  | ok response => exact congrArg Except.toOption (HttpObject.info_congr hu (.ok response))
  | error texts => rfl

/-- Failed descriptions differ by the URLs that were asked for. -/
theorem differBy_infoOf (h : locator.redacted = locator'.redacted)
    (he : locator.infoOf (locator.exchange (reply locator.redacted)) = .error e)
    (he' : locator'.infoOf (locator'.exchange (reply locator'.redacted)) = .error e') :
    DifferBy e e' (locator.asked reply) (locator'.asked reply) := by
  refine differBy_of_respond (fun u u' exchange hu => HttpObject.info_congr hu exchange) ?_ h he he'
  intro u u' front back e e' hu he he'
  simp only [infoOf, HttpObject.info] at he he'
  cases he
  cases he'
  rw [HttpObject.shownUrl_congr hu, ← String.append_assoc, ← String.append_assoc,
    ← String.append_assoc, ← String.append_assoc]
  exact .unexpected _ _ _ _

/-- Failed reads differ by the URLs that were asked for. -/
theorem differBy_rangeOf {first last : UInt64} (h : locator.redacted = locator'.redacted)
    (he : rangeOf first last locator (locator.exchange (reply locator.redacted)) = .error e)
    (he' : rangeOf first last locator' (locator'.exchange (reply locator'.redacted)) = .error e') :
    DifferBy e e' (locator.asked reply) (locator'.asked reply) := by
  refine differBy_of_respond (fun u u' exchange hu => HttpObject.range_congr hu first last exchange)
    ?_ h he he'
  intro u u' front back e e' hu he he'
  simp only [rangeOf, HttpObject.range] at he he'
  cases he
  cases he'
  rw [HttpObject.shownUrl_congr hu, ← String.append_assoc, ← String.append_assoc,
    ← String.append_assoc, ← String.append_assoc]
  exact .readError _ _ _ _

/-- A location that names no object is told as it is. -/
theorem told_of_error (h : parse location = .error e) : told reply location = location := by
  rw [told, h]

/-- Of one that names an object the URL is told. -/
theorem told_of_ok (h : parse location = .ok locator) :
    told reply location = locator.asked reply := by
  rw [told, h]

/-- Two locations that both name no object, or that name objects that differ only in their
queries. -/
inductive Alike (text text' : String) : Prop where
  | unnamed (fault fault') (h : parse text = .error fault) (h' : parse text' = .error fault')
  | named (object object') (h : parse text = .ok object) (h' : parse text' = .ok object')
      (hsame : object.redacted = object'.redacted)

/-- Locations that are the same in front of their marks are alike. -/
theorem alike_of_marks (q q' : String) (ha : NoMarks a.toList) (hc : isMark c = true)
    (hc' : isMark c' = true) :
    Alike (a ++ String.singleton c ++ q) (a ++ String.singleton c' ++ q') := by
  have hsame := parse_redacted_eq q q' ha hc hc'
  cases hparse : parse (a ++ String.singleton c ++ q) with
  | error e =>
      cases hparse' : parse (a ++ String.singleton c' ++ q') with
      | error e' => exact .unnamed e e' hparse hparse'
      | ok locator' =>
          rw [hparse, hparse'] at hsame
          cases hsame
  | ok locator =>
      cases hparse' : parse (a ++ String.singleton c' ++ q') with
      | error e' =>
          rw [hparse, hparse'] at hsame
          cases hsame
      | ok locator' =>
          rw [hparse, hparse'] at hsame
          exact .named locator locator' hparse hparse' (Option.some.inj hsame)

end ObjectLocator

namespace RemoteObject

open ObjectLocator

variable {network : Network} {location : String} {digest : Bool} {locator : ObjectLocator}

/-- The object that a description describes. -/
def ofInfo (name : String) (digest : Bool) (info : ObjectInfo) : RemoteObject where
  name
  length := info.size
  digests := if digest then Digests.ofHex info.sha1 info.sha256 else Digests.none

/-- A location that names no object is not opened. -/
theorem openLocation_of_error {e : Error} (h : parse location = .error e) :
    openLocation network location digest = .error (.fileNotFound location) := by
  rw [openLocation, h, eq_of_parse_eq_error h]
  rfl

/-- A location that names an object is opened as far as it is described. -/
theorem openLocation_of_ok (h : parse location = .ok locator) :
    openLocation network location digest =
      match locator.infoOf (network.head locator) with
      | .error e => .error e
      | .ok info => .ok (ofInfo locator.displayName digest info, locator.store network) := by
  rw [openLocation, h, ← store_info]
  show ((locator.store network).info.bind _).bind _ = _
  cases (locator.store network).info <;> rfl

section

variable {head : ObjectLocator → Reply} {get : ObjectLocator → (first last : UInt64) → Reply}
  {location' : String} {locator' : ObjectLocator} {e e' : Error} {object object' : RemoteObject}
  {store store' : ObjectStore}

/-- A location that names an object is not opened if the object is not described. -/
theorem infoOf_of_openLocation_eq_error (hparse : parse location = .ok locator)
    (h : openLocation network location digest = .error e) :
    locator.infoOf (network.head locator) = .error e := by
  rw [openLocation_of_ok hparse] at h
  split at h
  · rename_i hinfo
    rw [hinfo]
    exact congrArg Except.error (Except.error.inj h)
  · cases h

/-- It is opened as the described object. -/
theorem infoOf_of_openLocation_eq_ok (hparse : parse location = .ok locator)
    (h : openLocation network location digest = .ok (object, store)) :
    ∃ info, locator.infoOf (network.head locator) = .ok info ∧
      object = ofInfo locator.displayName digest info ∧ store = locator.store network := by
  rw [openLocation_of_ok hparse] at h
  split at h
  · cases h
  · rename_i info hinfo
    cases h
    exact ⟨info, hinfo, rfl, rfl⟩

/-- Whether an object is described, and how, is the same for all queries. -/
theorem toOption_infoOf_telling (head : ObjectLocator → Reply)
    (get : ObjectLocator → (first last : UInt64) → Reply)
    (hsame : locator.redacted = locator'.redacted) :
    (locator.infoOf ((Network.telling head get).head locator)).toOption =
      (locator'.infoOf ((Network.telling head get).head locator')).toOption :=
  toOption_infoOf hsame

/-- Of locations that are alike, both are opened or none is. -/
theorem isOk_openLocation (halike : Alike location location') :
    (openLocation (.telling head get) location digest).isOk =
      (openLocation (.telling head get) location' digest).isOk := by
  cases halike with
  | unnamed e e' h h' =>
      rw [openLocation_of_error h, openLocation_of_error h']
      rfl
  | named locator locator' h h' hsame =>
      have hinfo := toOption_infoOf_telling head get hsame
      rw [openLocation_of_ok h, openLocation_of_ok h']
      generalize locator.infoOf ((Network.telling head get).head locator) = first at hinfo
      generalize locator'.infoOf ((Network.telling head get).head locator') = second at hinfo
      cases first with
      | error =>
          cases second with
          | error => rfl
          | ok => cases hinfo
      | ok =>
          cases second with
          | error => cases hinfo
          | ok => rfl

/-- Their failures differ by what is told of them. -/
theorem differBy_openLocation (halike : Alike location location')
    (he : openLocation (.telling head get) location digest = .error e)
    (he' : openLocation (.telling head get) location' digest = .error e') :
    DifferBy e e' (told head location) (told head location') := by
  cases halike with
  | unnamed _ _ h h' =>
      rw [openLocation_of_error h, Except.error.injEq] at he
      rw [openLocation_of_error h', Except.error.injEq] at he'
      rw [told_of_error h, told_of_error h', ← he, ← he']
      exact .fileNotFound location location'
  | named locator locator' h h' hsame =>
      rw [told_of_ok h, told_of_ok h']
      exact differBy_infoOf hsame (infoOf_of_openLocation_eq_error h he)
        (infoOf_of_openLocation_eq_error h' he')

/-- They are opened as the same object, and its failed reads differ by what is told of them. -/
theorem eq_and_differBy_fetch (halike : Alike location location')
    (h : openLocation (.telling head get) location digest = .ok (object, store))
    (h' : openLocation (.telling head get) location' digest = .ok (object', store')) :
    object = object' ∧ ∀ first last e e', store.fetch first last = .error e →
      store'.fetch first last = .error e' →
      DifferBy e e' (told (get · first last) location) (told (get · first last) location') := by
  cases halike with
  | unnamed _ _ hparse =>
      rw [openLocation_of_error hparse] at h
      cases h
  | named locator locator' hparse hparse' hsame =>
      obtain ⟨info, hinfo, rfl, rfl⟩ := infoOf_of_openLocation_eq_ok hparse h
      obtain ⟨info', hinfo', rfl, rfl⟩ := infoOf_of_openLocation_eq_ok hparse' h'
      have hsameInfo := toOption_infoOf_telling head get hsame
      rw [hinfo, hinfo'] at hsameInfo
      refine ⟨?_, fun first last e e' he he' => ?_⟩
      · rw [Option.some.inj hsameInfo, ← displayName_redacted locator, hsame, displayName_redacted]
      · rw [store_fetch] at he he'
        rw [told_of_ok hparse, told_of_ok hparse']
        exact differBy_rangeOf hsame he he'

end

/-- Locations that are the same in front of their marks are both opened or both not, and as the
same object, whatever comes of the requests. The causes of two failures are the same, but their
texts only if the same is told of the locations: for locations that name no object only if they
are the same, and for URLs without an answer only if these are the same. The same is true of
failed reads. -/
theorem failures_tell_the_same_iff (head : ObjectLocator → Reply)
    (get : ObjectLocator → (first last : UInt64) → Reply) (digest : Bool) (a q q' : String)
    (c c' : Char) (ha : NoMarks a.toList) (hc : isMark c = true) (hc' : isMark c' = true) :
    let network := Network.telling head get
    let location := a ++ String.singleton c ++ q
    let location' := a ++ String.singleton c' ++ q'
    ((openLocation network location digest).isOk = (openLocation network location' digest).isOk) ∧
    (∀ e e', openLocation network location digest = .error e →
      openLocation network location' digest = .error e' →
      e.code = e'.code ∧ (e.message = e'.message ↔ told head location = told head location')) ∧
    (∀ object store object' store', openLocation network location digest = .ok (object, store) →
      openLocation network location' digest = .ok (object', store') →
      object = object' ∧ ∀ first last e e', store.fetch first last = .error e →
        store'.fetch first last = .error e' →
        e.code = e'.code ∧ (e.message = e'.message ↔
          told (get · first last) location = told (get · first last) location')) := by
  have halike := alike_of_marks q q' ha hc hc'
  refine ⟨isOk_openLocation halike, fun e e' he he' => ?_,
    fun object store object' store' h h' => ?_⟩
  · have hdiffer := differBy_openLocation halike he he'
    exact ⟨hdiffer.code, hdiffer.message⟩
  · obtain ⟨hobject, hfetch⟩ := eq_and_differBy_fetch halike h h'
    refine ⟨hobject, fun first last e e' he he' => ?_⟩
    have hdiffer := hfetch first last e e' he he'
    exact ⟨hdiffer.code, hdiffer.message⟩

/-- A request that is refused is reported in the same way, whatever its signature. -/
theorem refusals_tell_the_same :
    let network := Network.telling (fun _ => .ok { status := 403 }) fun _ _ _ => .error ("", "")
    ∃ e e', openLocation network "https://h.example/k?X-Amz-Signature=5f" false = .error e ∧
      openLocation network "https://h.example/k#top" false = .error e' ∧ e.message = e'.message ∧
      e.message = "Failed to open file. Permission denied to open https://h.example/k." := by
  have hopen := failures_tell_the_same_iff (fun _ => .ok { status := 403 })
    (fun _ _ _ => .error ("", "")) false "https://h.example/k" "X-Amz-Signature=5f" "top" '?' '#'
    (by decide) (by decide) (by decide)
  refine ⟨.noPermission "https://h.example/k", .noPermission "https://h.example/k", rfl, rfl, ?_,
    ?_⟩
  · exact (hopen.2.1 _ _ rfl rfl).2.2 (by decide)
  · decide

/-- A location that names no object is reported with its signature, and so is a URL whose server
cannot be reached. -/
theorem failures_tell_signatures :
    let network := Network.telling (fun _ => .error ("error sending request for url (", ")"))
      fun _ _ _ => .error ("", "")
    NoMarks "s3://bkt".toList ∧ NoMarks "https://h.example/k".toList ∧
      (∃ e e', openLocation network "s3://bkt?X-Amz-Signature=5f" false = .error e ∧
        openLocation network "s3://bkt?X-Amz-Signature=60" false = .error e' ∧
        e.code = e'.code ∧ e.message ≠ e'.message) ∧
      ∃ e e', openLocation network "https://h.example/k?X-Amz-Signature=5f" false = .error e ∧
        openLocation network "https://h.example/k?X-Amz-Signature=60" false = .error e' ∧
        e.code = e'.code ∧ e.message ≠ e'.message := by
  refine ⟨by decide, by decide, ?_, ?_⟩
  · exact ⟨_, _, rfl, rfl, by decide, by decide⟩
  · exact ⟨_, _, rfl, rfl, by decide, by decide⟩

end RemoteObject

end MalwareScan
