import MalwareScan.Proofs.Text.Characters
import MalwareScan.Url.Parse

/-!
# Paths of URLs

The path of a URL is the text behind its host with some characters written as percent-encoded bytes
and with the segments `.` and `..` resolved. What results is settled: none of its segments would be
changed again (`isSettled_of_mem_pathChars`). A text of settled segments is its own path
(`pathChars_eq`).
-/

namespace MalwareScan.Url

variable {set : EncodeSet} {cs : List Char} {c : Char} {above segments : List (List Char)}
  {segment : List Char}

/-! ## Percent encoding -/

/-- A text without characters of the set is not changed. -/
theorem percentEncode_eq_self (h : ∀ c ∈ cs, set c = false) : percentEncode set cs = cs := by
  induction cs with
  | nil => rfl
  | cons c cs ih =>
      have hrest := ih fun d hd => h d (by simp [hd])
      rw [percentEncode] at hrest ⊢
      rw [List.flatMap_cons, h c (by simp), hrest]
      rfl

/-- A percent-encoded byte is made of characters that a path keeps. -/
theorem path_of_mem_percentByte {b : UInt8} (h : c ∈ percentByte b) :
    EncodeSet.path c = false := by
  have hdigits : ∀ n < 16, EncodeSet.path (Nat.digitChar n).toUpper = false := by decide
  have hlt := b.toNat_lt
  simp only [percentByte, List.mem_cons, List.not_mem_nil, or_false] at h
  rcases h with rfl | rfl | rfl
  · decide
  · exact hdigits _ (by omega)
  · exact hdigits _ (by omega)

/-- A percent-encoded byte has no slash. -/
theorem noSlash_percentByte (b : UInt8) : '/' ∉ percentByte b := by
  have hdigits : ∀ n < 16, '/' ≠ (Nat.digitChar n).toUpper := by decide
  have hlt := b.toNat_lt
  simp only [percentByte, List.mem_cons, List.not_mem_nil, or_false, not_or]
  exact ⟨by decide, hdigits _ (by omega), hdigits _ (by omega)⟩

/-- What is encoded for a path is made of characters that a path keeps. -/
theorem mem_percentEncode_path (h : c ∈ percentEncode EncodeSet.path cs) :
    EncodeSet.path c = false := by
  simp only [percentEncode, List.mem_flatMap] at h
  obtain ⟨d, -, hmem⟩ := h
  split at hmem
  · obtain ⟨b, -, hbyte⟩ := List.mem_flatMap.1 hmem
    exact path_of_mem_percentByte hbyte
  · rename_i hkept
    obtain rfl := List.mem_singleton.1 hmem
    simpa using hkept

/-! ## Segments -/

/-- The text of segments, each behind a slash. -/
def spell (segments : List (List Char)) : List Char :=
  segments.flatMap ('/' :: ·)

/-- A segment that is resolved instead of kept. -/
def isDots (segment : List Char) : Bool :=
  isDoubleDot segment || isSingleDot segment

/-- A segment that a path keeps as it is. -/
structure IsSettled (segment : List Char) : Prop where
  noDots : isDots segment = false
  kept : ∀ c ∈ segment, EncodeSet.path c = false
  noSlash : '/' ∉ segment

/-- The empty segment is kept. -/
theorem isSettled_nil : IsSettled [] :=
  ⟨by decide, nofun, nofun⟩

/-- A text is the text of its segments behind one more slash. -/
theorem spell_splitOnP (cs : List Char) : spell (cs.splitOnP (· == '/')) = '/' :: cs := by
  induction cs with
  | nil => rfl
  | cons c cs ih =>
      rw [List.splitOnP_cons_eq_if_modifyHead]
      split
      · rename_i hslash
        rw [spell, List.flatMap_cons, ← spell, ih, beq_iff_eq.1 hslash]
        rfl
      · cases hsplit : cs.splitOnP (· == '/') with
        | nil =>
            rw [hsplit] at ih
            cases ih
        | cons first rest =>
            rw [hsplit] at ih
            simp only [spell, List.flatMap_cons, List.cons_append, List.cons.injEq, true_and,
              List.modifyHead_cons] at ih ⊢
            rw [ih]

/-- A character of a text is a slash or one of a segment. -/
theorem eq_or_mem_segment (h : c ∈ cs) :
    c = '/' ∨ ∃ segment ∈ cs.splitOnP (· == '/'), c ∈ segment := by
  have hspell : c ∈ spell (cs.splitOnP (· == '/')) := by
    rw [spell_splitOnP]
    exact List.mem_cons_of_mem _ h
  obtain ⟨segment, hsegment, hc⟩ := List.mem_flatMap.1 hspell
  exact (List.mem_cons.1 hc).imp_right fun hmem => ⟨segment, hsegment, hmem⟩

/-- A segment of a text has no slash. -/
theorem noSlash_of_mem (h : segment ∈ cs.splitOnP (· == '/')) : '/' ∉ segment :=
  Text.not_mem_of_mem_splitOn h

/-- Text without slashes in front of others belongs to the first segment. -/
theorem splitOnP_append (h : '/' ∉ segment) (cs : List Char) :
    (segment ++ cs).splitOnP (· == '/') = (cs.splitOnP (· == '/')).modifyHead (segment ++ ·) := by
  induction segment with
  | nil =>
      have hid : (fun first : List Char => [] ++ first) = id := rfl
      rw [hid, List.modifyHead_id]
      rfl
  | cons c segment ih =>
      obtain ⟨hc, hrest⟩ := not_or.1 (mt List.mem_cons.2 h)
      rw [List.cons_append, List.splitOnP_cons_eq_if_modifyHead, if_neg (by simpa using Ne.symm hc),
        ih hrest, List.modifyHead_modifyHead]
      rfl

/-- The segments of the text of segments are these, behind an empty one. -/
theorem splitOnP_spell (h : ∀ segment ∈ segments, '/' ∉ segment) :
    (spell segments).splitOnP (· == '/') = [] :: segments := by
  induction segments with
  | nil => rfl
  | cons segment segments ih =>
      obtain ⟨hfirst, hrest⟩ := List.forall_mem_cons.1 h
      have hspell : spell (segment :: segments) = '/' :: (segment ++ spell segments) := by
        simp [spell]
      rw [hspell, List.splitOnP_cons_eq_if_modifyHead, if_pos (by decide), splitOnP_append hfirst,
        ih hrest, List.modifyHead_cons, List.append_nil]

/-- A text has the segments that are left of it without its leading slashes. -/
theorem mem_splitOnP_dropWhile (h : segment ∈ (cs.dropWhile (· == '/')).splitOnP (· == '/')) :
    segment ∈ cs.splitOnP (· == '/') := by
  induction cs with
  | nil => exact h
  | cons c cs ih =>
      rw [List.dropWhile_cons] at h
      split at h
      · rename_i hc
        rw [List.splitOnP_cons_eq_if_modifyHead, if_pos hc]
        exact List.mem_cons_of_mem _ (ih h)
      · exact h

/-! ## Resolving segments -/

/-- Segments that are kept are put in front of those above one by one. -/
theorem resolveDots_of_kept (above : List (List Char))
    (h : ∀ segment ∈ segments, isDots segment = false) :
    resolveDots above segments = segments.reverse ++ above := by
  fun_induction resolveDots above segments with
  | case1 => rfl
  | case2 above last hdouble =>
      have hdots := h last (by simp)
      simp [isDots, hdouble] at hdots
  | case3 above last _ hsingle =>
      have hdots := h last (by simp)
      simp [isDots, hsingle] at hdots
  | case4 => rfl
  | case5 above segment segments _ hdouble =>
      have hdots := h segment (by simp)
      simp [isDots, hdouble] at hdots
  | case6 above segment segments _ _ hsingle =>
      have hdots := h segment (by simp)
      simp [isDots, hsingle] at hdots
  | case7 above segment segments _ _ _ ih =>
      rw [ih fun other hother => h other (by simp [hother])]
      simp

/-- What holds of the empty segment and of all that are not resolved holds of all that are left. -/
theorem forall_resolveDots {P : List Char → Prop} (hnil : P [])
    (habove : ∀ segment ∈ above, P segment)
    (hsegments : ∀ segment ∈ segments, isDots segment = false → P segment) :
    ∀ segment ∈ resolveDots above segments, P segment := by
  have hpop {above : List (List Char)} (habove : ∀ segment ∈ above, P segment) :
      ∀ segment ∈ popSegment above, P segment := by
    unfold popSegment
    split
    · exact habove
    · split
      · exact habove
      · exact (List.forall_mem_cons.1 habove).2
  -- The cases are those of the recursion: the last segment and the others, each of the three kinds.
  fun_induction resolveDots above segments with
  | case1 => exact habove
  | case2 => exact List.forall_mem_cons.2 ⟨hnil, hpop habove⟩
  | case3 => exact List.forall_mem_cons.2 ⟨hnil, habove⟩
  | case4 above last hdouble hsingle =>
      have hlast := hsegments last (by simp) (by simp [isDots, hdouble, hsingle])
      exact List.forall_mem_cons.2 ⟨hlast, habove⟩
  | case5 above first segments _ _ ih =>
      exact ih (hpop habove) (List.forall_mem_cons.1 hsegments).2
  | case6 above first segments _ _ _ ih => exact ih habove (List.forall_mem_cons.1 hsegments).2
  | case7 above first segments _ hdouble hsingle ih =>
      obtain ⟨hfirst, hrest⟩ := List.forall_mem_cons.1 hsegments
      have hkept := hfirst (by simp [isDots, hdouble, hsingle])
      exact ih (List.forall_mem_cons.2 ⟨hkept, habove⟩) hrest

/-! ## Paths -/

/-- The path that a text states behind its first slash, in a URL that is not special. -/
def pathChars (cs : List Char) : List Char :=
  spell (resolveDots [] ((cs.splitOnP (· == '/')).map (percentEncode EncodeSet.path))).reverse

/-- It is the path of the URL. -/
theorem toList_pathText_segmentsOf (cs : List Char) :
    (pathText (.segments (segmentsOf .other cs))).toList = pathChars cs := by
  have hslash : (fun c : Char => c == '/' || (SchemeKind.other != .other && c == '\\')) =
      (· == '/') := by
    funext c
    simp
  rw [pathText, String.toList_join, List.flatMap_map, segmentsOf, hslash, pathChars, spell,
    List.flatMap_map]
  simp

/-- What is encoded has a slash only where one was. -/
theorem noSlash_percentEncode (h : '/' ∉ cs) : '/' ∉ percentEncode EncodeSet.path cs := by
  intro hmem
  simp only [percentEncode, List.mem_flatMap] at hmem
  obtain ⟨c, hc, hslash⟩ := hmem
  split at hslash
  · obtain ⟨b, -, hbyte⟩ := List.mem_flatMap.1 hslash
    exact noSlash_percentByte b hbyte
  · exact h (List.mem_singleton.1 hslash ▸ hc)

/-- The segments of a path are settled. -/
theorem isSettled_of_mem_pathChars
    (h : segment ∈ (pathChars cs).splitOnP (· == '/')) : IsSettled segment := by
  have hsettled : ∀ segment ∈ resolveDots []
      ((cs.splitOnP (· == '/')).map (percentEncode EncodeSet.path)), IsSettled segment := by
    refine forall_resolveDots isSettled_nil nofun fun segment hsegment hdots => ?_
    obtain ⟨source, hsource, rfl⟩ := List.mem_map.1 hsegment
    exact ⟨hdots, fun c => mem_percentEncode_path, noSlash_percentEncode (noSlash_of_mem hsource)⟩
  rw [pathChars, splitOnP_spell fun segment hsegment =>
    (hsettled segment (List.mem_reverse.1 hsegment)).noSlash] at h
  rcases List.mem_cons.1 h with rfl | hmem
  · exact isSettled_nil
  · exact hsettled segment (List.mem_reverse.1 hmem)

/-- A text of characters that a path keeps is not encoded. -/
theorem map_percentEncode_splitOnP (h : ∀ c ∈ cs, EncodeSet.path c = false) :
    (cs.splitOnP (· == '/')).map (percentEncode EncodeSet.path) = cs.splitOnP (· == '/') := by
  have hsegments : ∀ segment ∈ cs.splitOnP (· == '/'),
      percentEncode EncodeSet.path segment = segment := by
    intro segment hsegment
    refine percentEncode_eq_self fun c hc => ?_
    have hspell : c ∈ spell (cs.splitOnP (· == '/')) :=
      List.mem_flatMap.2 ⟨segment, hsegment, List.mem_cons_of_mem _ hc⟩
    rw [spell_splitOnP] at hspell
    rcases List.mem_cons.1 hspell with rfl | hmem
    · decide
    · exact h c hmem
  exact (List.map_congr_left hsegments).trans (List.map_id' _)

/-- The path of a text is the text itself if a path keeps its characters and its segments. -/
theorem pathChars_eq (h : ∀ c ∈ cs, EncodeSet.path c = false)
    (hdots : ∀ segment ∈ cs.splitOnP (· == '/'), isDots segment = false) :
    pathChars cs = '/' :: cs := by
  rw [pathChars, map_percentEncode_splitOnP h, resolveDots_of_kept [] hdots, List.append_nil,
    List.reverse_reverse, spell_splitOnP]

end MalwareScan.Url
