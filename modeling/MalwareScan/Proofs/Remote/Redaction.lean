import MalwareScan.Batch.Target
import MalwareScan.Proofs.Url.Redacted

/-!
# What is shown of a location

The query and the fragment of a location carry the right to read the object. What is shown of a
location is its text in front of them, or the normal form of this text if it names an object: in
neither case it depends on them, and it has no mark behind which they could stand. The main theorem
is `redact_hides_query`.
-/

namespace MalwareScan

open Url (isMark NoMarks)

namespace ObjectLocator

/-- The object without the query and the fragment of its URL. -/
def redacted : ObjectLocator → ObjectLocator
  | s3 bucket key => s3 bucket key
  | url u => url u.redacted

variable {location a q q' : String} {c c' : Char} {locator : ObjectLocator} {e : Error}

/-- What is shown of an object does not depend on them. -/
theorem displayName_redacted (locator : ObjectLocator) :
    locator.redacted.displayName = locator.displayName := by
  cases locator <;> rfl

/-- Without its query and its fragment a URL names the object without them. -/
theorem ofUrl?_redacted (u : Url) : ofUrl? u.redacted = (ofUrl? u).map redacted := by
  obtain ⟨scheme, username, password, host, hasAuthority, port, path, query, fragment⟩ := u
  simp only [ofUrl?, Url.redacted]
  split
  · rw [apply_ite (Option.map redacted)]
    rfl
  · rfl
  · rfl

/-- The object at a location is the one that its URL names. -/
theorem toOption_parse (location : String) :
    (parse location).toOption = (Url.parse location).toOption.bind ofUrl? := by
  unfold parse
  cases Url.parse location with
  | error => rfl
  | ok u =>
      show _ = ofUrl? u
      dsimp only
      cases ofUrl? u <;> rfl

/-- A location that names no object is reported as it is. -/
theorem eq_of_parse_eq_error (h : parse location = .error e) : e = .fileNotFound location := by
  unfold parse at h
  split at h
  · split at h
    · cases h
    · cases h
      rfl
  · cases h
    rfl

/-- Whether a location names an object, and which one up to the query and the fragment, is the same
with all marks and all that stands behind them. -/
theorem parse_redacted_eq (q q' : String) (ha : NoMarks a.toList) (hc : isMark c = true)
    (hc' : isMark c' = true) :
    (parse (a ++ String.singleton c ++ q)).toOption.map redacted =
      (parse (a ++ String.singleton c' ++ q')).toOption.map redacted := by
  have hshown (location : String) : (parse location).toOption.map redacted =
      ((Url.parse location).map Url.redacted).toOption.bind ofUrl? := by
    rw [toOption_parse]
    cases Url.parse location with
    | error => rfl
    | ok u => exact (ofUrl?_redacted u).symm
  rw [hshown, hshown, Url.parse_redacted_eq ha hc hc']

/-- The text in front of the first mark. -/
theorem cutSecrets_append (ha : NoMarks a.toList) (hc : isMark c = true) :
    cutSecrets (a ++ String.singleton c ++ q) = a := by
  have htext : (a ++ String.singleton c ++ q).toList = a.toList ++ c :: q.toList := by simp
  rw [cutSecrets, htext, Url.takeWhile_mark hc ha, String.ofList_toList]

/-- What is shown of a location is decided by the object that it names without its query and its
fragment, and by the text in front of them. -/
theorem redact_eq (location : String) :
    redact location =
      (((parse location).toOption.map redacted).map displayName).getD (cutSecrets location) := by
  unfold redact
  cases parse location with
  | error => rfl
  | ok locator => exact (displayName_redacted locator).symm

/-- A result that is there is that of a success. -/
theorem eq_ok_of_toOption {α ε : Type} {x : Except ε α} {a : α} (h : x.toOption = some a) :
    x = .ok a := by
  cases x with
  | error => cases h
  | ok b =>
      cases h
      rfl

/-- What is shown of an object has no marks. -/
theorem noMarks_displayName (h : parse location = .ok locator) :
    NoMarks locator.displayName.toList := by
  have hnamed := toOption_parse location
  rw [h] at hnamed
  obtain ⟨u, hu, hlocator⟩ := Option.bind_eq_some_iff.1 hnamed.symm
  have hparse := eq_ok_of_toOption hu
  have hunmarked := Url.isUnmarked_of_parse hparse
  simp only [ofUrl?] at hlocator
  have hkey : NoMarks (keyOf (Url.pathText u.path)).toList := by
    rw [keyOf, String.toList_ofList]
    exact hunmarked.path.of_subset (List.dropWhile_suffix _).subset
  split at hlocator
  · obtain ⟨-, hlocator⟩ := Option.ite_none_left_eq_some.1 hlocator
    cases hlocator
    simp only [displayName, String.toList_append, Url.noMarks_append]
    refine ⟨⟨⟨by decide, ?_⟩, by decide⟩, hkey⟩
    -- The bucket is the host, if there is one.
    cases hfound : u.host with
    | none => exact Url.noMarks_nil
    | some host => exact hunmarked.host host hfound
  · cases hlocator
    exact Url.noMarks_text_redacted hparse
  · cases hlocator

/-- Nor has what is shown of any location. -/
theorem noMarks_redact (location : String) : NoMarks (redact location).toList := by
  unfold redact
  split
  · rename_i locator hparse
    exact noMarks_displayName hparse
  · rw [cutSecrets, String.toList_ofList]
    exact Url.noMarks_takeWhile _

/-- What is shown of a location does not depend on its query or its fragment, be it that of an
object or not: it is the same with all marks behind the same text and all that stands behind them.
So is the name of a target there. No location is shown with a question mark or a number sign,
whatever it is. -/
theorem redact_hides_query (a q q' : String) (c c' : Char) (ha : NoMarks a.toList)
    (hc : isMark c = true) (hc' : isMark c' = true) :
    redact (a ++ String.singleton c ++ q) = redact (a ++ String.singleton c' ++ q') ∧
      (Target.remote (a ++ String.singleton c ++ q)).displayName =
        (Target.remote (a ++ String.singleton c' ++ q')).displayName ∧
      ∀ location, '?' ∉ (redact location).toList ∧ '#' ∉ (redact location).toList := by
  have hsame : redact (a ++ String.singleton c ++ q) = redact (a ++ String.singleton c' ++ q') := by
    rw [redact_eq, redact_eq, parse_redacted_eq q q' ha hc hc', cutSecrets_append ha hc,
      cutSecrets_append ha hc']
  refine ⟨hsame, hsame, fun location => ⟨fun hmem => ?_, fun hmem => ?_⟩⟩
  · exact Bool.noConfusion (noMarks_redact location _ hmem)
  · exact Bool.noConfusion (noMarks_redact location _ hmem)

/-- A signature behind a question mark, and a fragment behind blanks and a name that is no URL. -/
theorem redact_hides_signature :
    redact "https://Bkt.example/a b?X-Amz-Signature=5f" = redact "https://Bkt.example/a b#top" ∧
      redact "https://Bkt.example/a b?X-Amz-Signature=5f" = "https://bkt.example/a%20b" ∧
      redact " s3://bkt?X-Amz-Signature=5f" = redact " s3://bkt#" ∧
      redact " s3://bkt?X-Amz-Signature=5f" = " s3://bkt" := by
  have hurl := redact_hides_query "https://Bkt.example/a b" "X-Amz-Signature=5f" "top" '?' '#'
    (by decide) (by decide) (by decide)
  have hbucket := redact_hides_query " s3://bkt" "X-Amz-Signature=5f" "" '?' '#'
    (by decide) (by decide) (by decide)
  exact ⟨hurl.1, by decide, hbucket.1, by decide⟩

end ObjectLocator

end MalwareScan
