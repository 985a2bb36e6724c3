import MalwareScan.Proofs.Url.Hosts
import MalwareScan.Proofs.Url.Paths

/-!
# Redacted URLs

No part of a URL in front of its query has a mark: user names, passwords and segments are
percent-encoded, a host is checked for such characters or written in digits and letters, and the
others never have them. So the text of a URL without its query and its fragment has no marks at all
(`noMarks_text_redacted`).
-/

namespace MalwareScan

open Url (isMark NoMarks)

variable {cs ds : List Char} {c : Char}

/-! ## Texts without marks -/

namespace Url

@[simp] theorem noMarks_nil : NoMarks [] := nofun

@[simp] theorem noMarks_append : NoMarks (cs ++ ds) ↔ NoMarks cs ∧ NoMarks ds :=
  List.forall_mem_append

/-- A path keeps no marks. -/
theorem noMark_of_path (h : EncodeSet.path c = false) : isMark c = false :=
  noMark_of_eq_false h rfl rfl

/-- What a set leaves as it is decides what marks an encoded text has. -/
theorem noMarks_percentEncode {set : EncodeSet}
    (h : ∀ c ∈ cs, set c = false → isMark c = false) : NoMarks (percentEncode set cs) := by
  intro c hc
  simp only [percentEncode, List.mem_flatMap] at hc
  obtain ⟨d, hd, hmem⟩ := hc
  split at hmem
  · obtain ⟨b, -, hbyte⟩ := List.mem_flatMap.1 hmem
    exact noMark_of_path (path_of_mem_percentByte hbyte)
  · rename_i hkept
    rw [List.mem_singleton.1 hmem]
    exact h d hd (by simpa using hkept)

/-- An encoded segment has no marks. -/
theorem noMarks_percentEncode_path (cs : List Char) :
    NoMarks (percentEncode EncodeSet.path cs) :=
  fun _ hc => noMark_of_path (mem_percentEncode_path hc)

/-- An encoded user name has no marks. -/
theorem noMarks_percentEncode_userinfo (cs : List Char) :
    NoMarks (percentEncode EncodeSet.userinfo cs) := by
  refine noMarks_percentEncode fun c _ hkept => noMark_of_path ?_
  exact (Bool.or_eq_false_iff.1 hkept).1

/-- A number is written without marks. -/
theorem noMarks_toString (n : Nat) : NoMarks (toString n).toList :=
  fun c hc => noMark_of_eq_false (p := fun c => !Net.isAddressChar c)
    (by simp [Net.isAddressText_toString n c hc]) rfl rfl

/-! ## Hosts -/

variable {host : Host} {kind : SchemeKind} {scheme : String} {u : Url}

/-- No host has marks. -/
theorem noMarks_hostOf? (h : hostOf? kind cs = .ok host) : NoMarks host.text.toList := by
  have hforbidden : ∀ c ∈ ['?', '#'], isForbiddenInHost c = true ∧ c ≠ ':' :=
    Text.forall_of_all (by decide)
  have hplain : NoMarks host.plainText.toList := by
    refine fun c hc => Bool.eq_false_iff.2 fun hmark => ?_
    obtain ⟨hmem, hcolon⟩ := hforbidden c (by simpa using eq_of_isMark hmark)
    exact hcolon (eq_colon_of_mem_plainText h hc hmem)
  rcases host.text_eq with heq | heq
  · rw [heq]
    exact hplain
  · simp only [heq, String.toList_append, noMarks_append]
    exact ⟨⟨by decide, hplain⟩, by decide⟩

/-! ## Parts of a URL -/

/-- The parts of a URL in front of its query have no marks. -/
structure IsUnmarked (u : Url) : Prop where
  scheme : NoMarks u.scheme.toList
  username : NoMarks u.username.toList
  password : ∀ password, u.password = some password → NoMarks password.toList
  host : ∀ host, u.host = some host → NoMarks host.text.toList
  path : NoMarks (pathText u.path).toList

/-- The segments of a path have no marks. -/
theorem noMarks_segmentsOf (kind : SchemeKind) (cs : List Char) :
    NoMarks (pathText (.segments (segmentsOf kind cs))).toList := by
  have hsegments : ∀ segment ∈ resolveDots [] ((cs.splitOnP fun c =>
      c == '/' || (kind != .other && c == '\\')).map (percentEncode EncodeSet.path)),
      NoMarks segment := by
    refine forall_resolveDots noMarks_nil nofun fun segment hsegment _ => ?_
    obtain ⟨source, -, rfl⟩ := List.mem_map.1 hsegment
    exact noMarks_percentEncode_path source
  intro c hc
  simp only [pathText, String.toList_join, List.flatMap_map, segmentsOf, List.mem_flatMap,
    List.mem_reverse, String.toList_append, String.toList_ofList, List.mem_append] at hc
  obtain ⟨segment, hsegment, hslash | hmem⟩ := hc
  · obtain rfl : c = '/' := by simpa using hslash
    rfl
  · exact hsegments segment hsegment c hmem

/-- Nor has the path behind a host. -/
theorem noMarks_pathOf (kind : SchemeKind) (cs : List Char) :
    NoMarks (pathText (pathOf kind cs)).toList := by
  unfold pathOf
  split
  · split <;> decide
  · split <;> exact noMarks_segmentsOf _ _

/-- The path, the query and the fragment leave the other parts as they are. -/
theorem IsUnmarked.withPath (h : u.IsUnmarked) (kind : SchemeKind) (cs : List Char) :
    (u.withPath kind cs).IsUnmarked :=
  { h with path := noMarks_pathOf kind _ }

/-- The user name and the password have no marks. -/
theorem noMarks_userOf (cs : List Char) :
    NoMarks (userOf cs).1.toList ∧
      ∀ password, (userOf cs).2 = some password → NoMarks password.toList := by
  have hencode (part : List Char) :
      NoMarks (String.ofList (percentEncode EncodeSet.userinfo part)).toList := by
    rw [String.toList_ofList]
    exact noMarks_percentEncode_userinfo part
  simp only [userOf]
  split
  · exact ⟨hencode _, nofun⟩
  · exact ⟨hencode _, nofun⟩
  · refine ⟨hencode _, fun password h => ?_⟩
    cases h
    exact hencode _

/-- A character of a scheme is no mark in lower case. -/
theorem noMark_toLower (h : isSchemeChar c = true) : isMark c.toLower = false := by
  cases hmark : isMark c.toLower with
  | false => rfl
  | true =>
      unfold Char.toLower at hmark
      split at hmark
      · -- A lower-case letter is too large to be a mark.
        rename_i hupper
        have hlow : 65 ≤ c.val.toNat := UInt32.le_iff_toNat_le.1 hupper.1
        have hhigh : c.val.toNat ≤ 90 := UInt32.le_iff_toNat_le.1 hupper.2
        have hshift : (c.val + ('a'.val - 'A'.val)).toNat = c.val.toNat + 32 := by
          rw [UInt32.toNat_add]
          show (c.val.toNat + 32) % 4294967296 = c.val.toNat + 32
          omega
        have hquestion : '?'.val.toNat = 63 := rfl
        have hnumber : '#'.val.toNat = 35 := rfl
        rcases eq_of_isMark hmark with heq | heq
        all_goals
          have hval := congrArg (fun c : Char => c.val.toNat) heq
          simp only [hshift] at hval
          omega
      · rw [eq_false_of_isMark (p := isSchemeChar) hmark (by decide) (by decide)] at h
        cases h

/-- A scheme has no marks. -/
theorem noMarks_of_splitScheme {rest : List Char} (h : splitScheme cs = some (scheme, rest)) :
    NoMarks scheme.toList := by
  unfold splitScheme at h
  split at h
  · cases h
  · split at h
    · cases h
    · split at h
      · cases h
        rw [String.toList_ofList]
        intro c hc
        obtain ⟨d, hd, rfl⟩ := List.mem_map.1 hc
        exact noMark_toLower (List.all_eq_true.1 List.all_takeWhile d hd)
      · cases h

/-- A URL with an authority has no marks in front of its query. -/
theorem isUnmarked_of_parseAuthority (hscheme : NoMarks scheme.toList)
    (h : parseAuthority scheme kind cs = .ok u) : u.IsUnmarked := by
  simp only [parseAuthority_eq] at h
  have huser := noMarks_userOf ((splitUser kind cs).1.getD [])
  split at h
  · cases h
  split at h
  · cases h
  obtain ⟨host, hhost, h⟩ := exists_of_bind h
  split at h
  · cases h
  obtain ⟨⟨port, rest⟩, -, h⟩ := exists_of_bind h
  dsimp only at h
  split at h
  · cases h
  cases h
  -- An empty host is left out; any other is the one that was read.
  apply IsUnmarked.withPath
  refine ⟨hscheme, huser.1, huser.2, fun found hfound => ?_, noMarks_nil⟩
  dsimp only at hfound
  split at hfound
  · cases hfound
  · cases hfound
    exact noMarks_hostOf? hhost

/-- A URL of a file has no marks in front of its query. -/
theorem isUnmarked_of_parseFile (h : parseFile cs = .ok u) : u.IsUnmarked := by
  have hlocal : fileUrl.IsUnmarked := ⟨by decide, by decide, nofun, nofun, by decide⟩
  rw [parseFile_eq] at h
  split at h
  · simp only [parseShare] at h
    split at h
    · cases h
      exact hlocal.withPath .file _
    · obtain ⟨host, hhost, h⟩ := exists_of_bind h
      cases h
      -- This machine is left out as a host.
      apply IsUnmarked.withPath
      refine { hlocal with host := fun found hfound => ?_ }
      dsimp only at hfound
      split at hfound
      · cases hfound
      · cases hfound
        exact noMarks_hostOf? (show hostOf? .special _ = _ from hhost)
  · cases h
    exact hlocal.withPath .file cs

/-- A URL without an authority has no marks in front of its query. -/
theorem isUnmarked_parsePlain (hscheme : NoMarks scheme.toList) (cs : List Char) :
    (parsePlain scheme cs).IsUnmarked := by
  refine ⟨hscheme, noMarks_nil, nofun, nofun, ?_⟩
  simp only [parsePlain]
  split
  · exact noMarks_segmentsOf _ _
  · rw [pathText, String.toList_ofList]
    exact noMarks_percentEncode fun c hc _ => noMarks_takeWhile cs c hc

/-- A URL has no marks in front of its query. -/
theorem isUnmarked_of_parse {text : String} (h : parse text = .ok u) : u.IsUnmarked := by
  unfold parse at h
  split at h
  · cases h
  · rename_i scheme rest hsplit
    have hscheme := noMarks_of_splitScheme hsplit
    split at h
    · exact isUnmarked_of_parseAuthority hscheme h
    · exact isUnmarked_of_parseFile h
    · split at h
      · exact isUnmarked_of_parseAuthority hscheme h
      · cases h
        exact isUnmarked_parsePlain hscheme _

/-- The user name and the password in front of a host have no marks. -/
theorem IsUnmarked.noMarks_userinfoText (h : u.IsUnmarked) : NoMarks u.userinfoText.toList := by
  unfold userinfoText
  split
  · exact noMarks_nil
  · cases hpassword : u.password with
    | none =>
        simp only [String.toList_append, noMarks_append]
        exact ⟨⟨h.username, noMarks_nil⟩, by decide⟩
    | some password =>
        simp only [String.toList_append, noMarks_append]
        exact ⟨⟨h.username, by decide, h.password password hpassword⟩, by decide⟩

/-- The text of a URL that has no marks in front of its query has none without it. -/
theorem IsUnmarked.noMarks_text (h : u.IsUnmarked) : NoMarks u.redacted.text.toList := by
  have hredacted : u.redacted.IsUnmarked := ⟨h.scheme, h.username, h.password, h.host, h.path⟩
  simp only [text, String.toList_append, noMarks_append]
  refine ⟨⟨⟨⟨⟨h.scheme, by decide⟩, ?_⟩, h.path⟩, noMarks_nil⟩, noMarks_nil⟩
  split
  · simp only [String.toList_append, noMarks_append]
    refine ⟨⟨⟨by decide, hredacted.noMarks_userinfoText⟩, ?host⟩, ?port⟩
    case host =>
      cases hfound : u.redacted.host with
      | none => exact noMarks_nil
      | some host => exact h.host host hfound
    case port =>
      cases u.redacted.port with
      | none => exact noMarks_nil
      | some port =>
          simp only [String.toList_append, noMarks_append]
          exact ⟨by decide, noMarks_toString port.toNat⟩
  · split <;> decide

/-- The text of a URL without its query and its fragment has no marks. -/
theorem noMarks_text_redacted {text : String} (h : parse text = .ok u) :
    NoMarks u.redacted.text.toList :=
  (isUnmarked_of_parse h).noMarks_text

end Url

end MalwareScan
