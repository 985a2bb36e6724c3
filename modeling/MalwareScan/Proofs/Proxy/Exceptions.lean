import MalwareScan.Proofs.Proxy.Variables
import MalwareScan.Proofs.Text.Characters

/-!
# Hosts that are reached without a proxy

The list of exceptions is a text with a comma between each two entries. What counts of an entry is
what is left of it without the blanks around it, and an entry of which nothing is left does not
count.

`Lists` says which entries a text has, and `Exempts` which hosts an entry stands for. The main
theorem, `proxied_unless_exempt`, says that a host is reached without a proxy exactly if there is
none or if an entry exempts the host, and what may be done to the entries without a change of
this.
-/

namespace MalwareScan.Proxy

variable {host entry rest : String} {list http https user password : Option String}
  {entries others first second : List String}

/-! ## Entries of a text -/

/-- The text has the entries: there is a comma between each two of them, and none has a comma in
itself. -/
structure Lists (text : String) (entries : List String) : Prop where
  text_eq : text = ",".intercalate entries
  plain : ∀ entry ∈ entries, ',' ∉ entry.toList

/-- Every text has entries. -/
theorem exists_lists (text : String) : ∃ entries, Lists text entries := by
  obtain ⟨parts, -, hplain, hparts⟩ := Text.exists_intercalate ',' text.toList
  have hback : String.toList ∘ String.ofList = id := by
    funext cs
    exact String.toList_ofList
  refine ⟨parts.map String.ofList, ?_, fun entry hmem => ?_⟩
  · rw [← String.toList_inj, String.toList_intercalate, List.map_map, hback, List.map_id]
    exact hparts.symm
  · obtain ⟨part, hpart, rfl⟩ := List.mem_map.1 hmem
    rw [String.toList_ofList]
    exact hplain part hpart

/-- What counts of a list are its entries without the blanks around them, as far as something is
left of them. -/
theorem mem_exceptionsOf_iff (h : Lists (list.getD "") entries) :
    entry ∈ exceptionsOf list ↔ entry ≠ "" ∧ ∃ whole ∈ entries, Text.trim whole = entry := by
  have hempty (cs : List Char) : (!cs.isEmpty) = true ↔ String.ofList cs ≠ "" := by
    rw [Bool.not_eq_true', List.isEmpty_eq_false_iff, ne_eq, ne_eq, ← String.ofList_nil,
      String.ofList_inj]
  have hsplit : entry ∈ exceptionsOf list ↔
      entry ≠ "" ∧ ∃ part ∈ (list.getD "").toList.splitOn ',',
        String.ofList (Text.trimChars part) = entry := by
    simp only [exceptionsOf, List.mem_map, List.mem_filter, hempty]
    constructor
    · rintro ⟨_, ⟨⟨part, hpart, rfl⟩, hne⟩, rfl⟩
      exact ⟨hne, part, hpart, rfl⟩
    · rintro ⟨hne, part, hpart, rfl⟩
      exact ⟨_, ⟨⟨part, hpart, rfl⟩, hne⟩, rfl⟩
  rw [hsplit, and_congr_right_iff]
  intro hne
  cases entries with
  | nil =>
      -- The empty text has no entries, and it is split into one empty part.
      have hnil : (list.getD "").toList.splitOn ',' = [[]] := by
        rw [h.text_eq]
        rfl
      rw [hnil]
      simpa [Text.trimChars, Text.dropLastWhile] using hne
  | cons first entries =>
      have hplain : ∀ part ∈ (first :: entries).map String.toList, ',' ∉ part := by
        intro part hpart
        obtain ⟨whole, hwhole, rfl⟩ := List.mem_map.1 hpart
        exact h.plain whole hwhole
      have hparts : (list.getD "").toList.splitOn ',' = (first :: entries).map String.toList := by
        rw [h.text_eq, String.toList_intercalate]
        exact List.splitOn_intercalate ',' hplain (List.cons_ne_nil _ _)
      rw [hparts]
      simp only [List.mem_map, exists_exists_and_eq_and]
      rfl

/-! ## What an entry stands for -/

/-- An entry exempts a host: it is a star, or the host itself, or a star in front of one of the
dots of the host and of all that follows it. -/
inductive Exempts (host : String) : String → Prop where
  | all : Exempts host "*"
  | itself : Exempts host host
  | below {front rest : String} (hhost : host = front ++ "." ++ rest) : Exempts host ("*." ++ rest)

/-- A star and a dot in front of a text cover the hosts that end in a dot and the text, and the host
that they are. -/
theorem covers_below_iff :
    covers ("*." ++ rest) host = true ↔
      "*." ++ rest = host ∨ ('.' :: rest.toList) <:+ host.toList := by
  have hnoStar : ("*." ++ rest == "*") = false := by
    rw [beq_eq_false_iff_ne, ne_eq, ← String.toList_inj]
    simp
  have hchars : ("*." ++ rest).toList = '*' :: '.' :: rest.toList := by
    rw [String.toList_append]
    rfl
  rw [covers, hnoStar, Bool.false_or, Bool.or_eq_true, beq_iff_eq, hchars]
  exact or_congr_right List.isSuffixOf_iff_suffix

/-- An entry covers exactly the hosts that it exempts. -/
theorem covers_iff : covers entry host = true ↔ Exempts host entry := by
  constructor
  · intro h
    by_cases hstar : entry = "*"
    · rw [hstar]
      exact .all
    by_cases hself : entry = host
    · rw [hself]
      exact .itself
    -- Neither a star nor the host: it begins with a star and a dot.
    have hend := h
    rw [covers, beq_eq_false_iff_ne.2 hstar, beq_eq_false_iff_ne.2 hself, Bool.false_or,
      Bool.false_or] at hend
    split at hend
    · rename_i rest hchars
      obtain ⟨front, hfront⟩ := List.isSuffixOf_iff_suffix.1 hend
      have hentry : entry = "*." ++ String.ofList rest := by
        rw [← String.toList_inj, hchars]
        simp
      have hhost : host = String.ofList front ++ "." ++ String.ofList rest := by
        rw [← String.toList_inj, ← hfront]
        simp
      rw [hentry]
      exact .below hhost
    · cases hend
  · intro h
    cases h with
    | all => exact covers_star host
    | itself => exact covers_self host
    | @below front rest hhost =>
        refine covers_below_iff.2 (.inr ⟨front.toList, ?_⟩)
        rw [hhost]
        simp

/-- An entry with a star covers no host that ends in its letters without a dot in front of them. -/
theorem covers_below_eq_false {front : String} (hhost : host = front ++ rest)
    (hdot : front.toList.getLast? ≠ some '.') : covers ("*." ++ rest) host = false := by
  rw [Bool.eq_false_iff]
  intro h
  -- In both cases the letters have a dot in front of them.
  have hend : ∃ before : List Char, host.toList = before ++ '.' :: rest.toList := by
    rcases covers_below_iff.1 h with rfl | ⟨before, hbefore⟩
    · exact ⟨['*'], by rw [String.toList_append]; rfl⟩
    · exact ⟨before, hbefore.symm⟩
  obtain ⟨before, hbefore⟩ := hend
  have hsame : front.toList ++ rest.toList = (before ++ ['.']) ++ rest.toList := by
    rw [← String.toList_append, ← hhost, hbefore, List.append_assoc]
    rfl
  rw [List.append_cancel_right hsame] at hdot
  simp at hdot

/-! ## Which hosts are exempt -/

/-- One of the entries exempts the host, and it is more than blanks. -/
def IsExempt (entries : List String) (host : String) : Prop :=
  ∃ entry ∈ entries, Text.trim entry ≠ "" ∧ Exempts host (Text.trim entry)

/-- No proxy is used for the hosts that are exempt. -/
theorem Selection.bypasses_iff (h : Lists (list.getD "") entries) :
    (Selection.new http https list user password).bypasses host = true ↔ IsExempt entries host := by
  show (exceptionsOf list).any (fun entry => covers entry host) = true ↔ _
  rw [List.any_eq_true]
  simp only [mem_exceptionsOf_iff h, covers_iff]
  constructor
  · rintro ⟨_, ⟨hne, whole, hmem, rfl⟩, hexempts⟩
    exact ⟨whole, hmem, hne, hexempts⟩
  · rintro ⟨whole, hmem, hne, hexempts⟩
    exact ⟨_, ⟨hne, whole, hmem, rfl⟩, hexempts⟩

/-- More entries exempt no fewer hosts. -/
theorem IsExempt.mono (hsub : entries ⊆ others) (h : IsExempt entries host) :
    IsExempt others host := by
  obtain ⟨entry, hmem, hexempts⟩ := h
  exact ⟨entry, hsub hmem, hexempts⟩

/-- A host is exempt by the first entry or by those behind it. -/
theorem isExempt_cons_iff :
    IsExempt (entry :: entries) host ↔
      (Text.trim entry ≠ "" ∧ Exempts host (Text.trim entry)) ∨ IsExempt entries host := by
  simp only [IsExempt, List.mem_cons, exists_eq_or_imp]

/-- The entries are the same but for their order, for repetitions, for blanks around them and for
empty ones. -/
inductive Rearranged : List String → List String → Prop where
  | order {first second : List String} (h : first.Perm second) : Rearranged first second
  | repetition (entry : String) (entries : List String) :
      Rearranged (entry :: entry :: entries) (entry :: entries)
  | blanks {front back : String} (hfront : ∀ c ∈ front.toList, Text.isBlank c = true)
      (hback : ∀ c ∈ back.toList, Text.isBlank c = true) (entry : String) (entries : List String) :
      Rearranged ((front ++ entry ++ back) :: entries) (entry :: entries)
  | empty (entries : List String) : Rearranged ("" :: entries) entries
  | symm {first second : List String} (h : Rearranged first second) : Rearranged second first
  | trans {first second third : List String} (h : Rearranged first second)
      (h' : Rearranged second third) : Rearranged first third

/-- Entries that are the same but for that exempt the same hosts. -/
theorem Rearranged.isExempt_iff (h : Rearranged first second) :
    IsExempt first host ↔ IsExempt second host := by
  induction h with
  | order h => exact ⟨IsExempt.mono h.subset, IsExempt.mono h.symm.subset⟩
  | repetition entry entries => rw [isExempt_cons_iff, isExempt_cons_iff, ← or_assoc, or_self]
  | @blanks front back hfront hback entry entries =>
      have htrim : Text.trim (front ++ entry ++ back) = Text.trim entry := by
        rw [Text.trim, Text.trim, String.toList_append, String.toList_append,
          Text.trimChars_surrounded hfront hback]
      rw [isExempt_cons_iff, isExempt_cons_iff, htrim]
  | empty entries =>
      have hnothing : Text.trim "" = "" := by decide
      rw [isExempt_cons_iff, hnothing]
      simp
  | symm _ ih => exact ih.symm
  | trans _ _ ih ih' => exact ih.trans ih'

/-! ## The main theorem -/

/-- The setting states nothing: it is not set, or it is set to blanks. -/
def IsVoid (setting : Option String) : Prop :=
  ∀ text, setting = some text → ∀ c ∈ text.toList, Text.isBlank c = true

/-- A setting that states nothing is dropped. -/
theorem filter_of_isVoid {setting : Option String} (h : IsVoid setting) :
    (setting.filter fun s => !Text.isBlankText s) = none := by
  cases setting with
  | none => rfl
  | some text =>
      have hblank : Text.isBlankText text = true := List.all_eq_true.2 (h text rfl)
      simp [hblank]

/-- Any other one is kept. -/
theorem filter_of_not_isVoid {setting : Option String} (h : ¬ IsVoid setting) :
    (setting.filter fun s => !Text.isBlankText s) = setting := by
  cases setting with
  | none => exact absurd nofun h
  | some text =>
      have hblank : Text.isBlankText text = false := by
        rw [Bool.eq_false_iff]
        intro hall
        refine h fun other hother => ?_
        obtain rfl := Option.some.inj hother
        exact List.all_eq_true.1 hall
      simp [hblank]

/-- The selection has no proxy if the settings state none. Otherwise it has the secure one if that
is stated, and the plain one if it is not. -/
theorem Selection.chosen_new (http https list user password : Option String) :
    ((Selection.new http https list user password).chosen = none ↔ IsVoid http ∧ IsVoid https) ∧
      (¬ IsVoid https → (Selection.new http https list user password).chosen = https) ∧
      (IsVoid https → ¬ IsVoid http →
        (Selection.new http https list user password).chosen = http) := by
  have hset {setting : Option String} (h : ¬ IsVoid setting) : setting ≠ none := by
    rintro rfl
    exact h nofun
  simp only [Selection.chosen, Selection.new]
  by_cases hhttps : IsVoid https
  · rw [filter_of_isVoid hhttps, Option.none_or]
    by_cases hhttp : IsVoid http
    · rw [filter_of_isVoid hhttp]
      exact ⟨by simp [hhttp, hhttps], fun h => absurd hhttps h, fun _ h => absurd hhttp h⟩
    · rw [filter_of_not_isVoid hhttp]
      exact ⟨by simp [hhttp, hset hhttp], fun h => absurd hhttps h, fun _ _ => rfl⟩
  · obtain ⟨url, hurl⟩ := Option.ne_none_iff_exists'.1 (hset hhttps)
    rw [filter_of_not_isVoid hhttps, hurl, Option.some_or]
    rw [hurl] at hhttps
    exact ⟨by simp [hhttps], fun _ => rfl, fun h => absurd h hhttps⟩

/-- For all settings of the proxies, every list of exceptions with its entries, and every host:

* the host is reached without a proxy exactly if the settings state none, or if one of the entries
  without the blanks around it is a star, or the host, or a star in front of a dot of the host and
  all that follows it. Any other host is reached by the secure proxy, or if none is stated, by the
  plain one;
* that does not change with the order of the entries, with repetitions, with blanks around them and
  with empty ones;
* a host that is exempt stays so when there are more entries;
* an entry with a star covers no host that ends in its letters without a dot in front of them. -/
theorem proxied_unless_exempt (http https list user password : Option String) (host : String) :
    (∃ entries, Lists (list.getD "") entries) ∧ ∀ entries, Lists (list.getD "") entries →
      ((Selection.new http https list user password).urlFor host = none ↔
        (IsVoid http ∧ IsVoid https) ∨ IsExempt entries host) ∧
      (¬ IsExempt entries host → ¬ IsVoid https →
        (Selection.new http https list user password).urlFor host = https) ∧
      (¬ IsExempt entries host → IsVoid https → ¬ IsVoid http →
        (Selection.new http https list user password).urlFor host = http) ∧
      (∀ (other : Option String) (others : List String), Lists (other.getD "") others →
        Rearranged entries others →
        (Selection.new http https other user password).urlFor host =
          (Selection.new http https list user password).urlFor host) ∧
      (∀ (other : Option String) (others : List String), Lists (other.getD "") others →
        entries ⊆ others →
        (Selection.new http https list user password).bypasses host = true →
          (Selection.new http https other user password).bypasses host = true) ∧
      ∀ front rest, host = front ++ rest → front.toList.getLast? ≠ some '.' →
        covers ("*." ++ rest) host = false := by
  refine ⟨exists_lists _, fun entries hlists => ?_⟩
  obtain ⟨hnone, hsecure, hplain⟩ :=
    Selection.chosen_new http https list user password
  have hkept (hexempt : ¬ IsExempt entries host) :
      (Selection.new http https list user password).urlFor host =
        (Selection.new http https list user password).chosen := by
    rw [Selection.urlFor_eq, if_neg (mt (Selection.bypasses_iff hlists).1 hexempt)]
  refine ⟨?_, fun hexempt h => (hkept hexempt).trans (hsecure h),
    fun hexempt h h' => (hkept hexempt).trans (hplain h h'), fun other others hothers hsame => ?_,
    fun other others hothers hsub hbypasses => ?_, fun front rest => covers_below_eq_false⟩
  · by_cases hexempt : IsExempt entries host
    · rw [Selection.urlFor_eq, if_pos ((Selection.bypasses_iff hlists).2 hexempt)]
      exact iff_of_true rfl (.inr hexempt)
    · rw [hkept hexempt, hnone, or_iff_left hexempt]
  · have hbypasses : (Selection.new http https other user password).bypasses host =
        (Selection.new http https list user password).bypasses host := by
      rw [Bool.eq_iff_iff, Selection.bypasses_iff hothers, Selection.bypasses_iff hlists]
      exact hsame.isExempt_iff.symm
    rw [Selection.urlFor_eq, Selection.urlFor_eq, hbypasses]
    rfl
  · have hexempt := (Selection.bypasses_iff hlists).1 hbypasses
    exact (Selection.bypasses_iff hothers).2 (hexempt.mono hsub)

/-- A star in front of a dot and a name, between blanks, exempts the hosts below the name. It does
not exempt a host that ends in the letters of the name only. -/
theorem proxied_unless_exempt_below :
    Lists " *.corp ,,b" [" *.corp ", "", "b"] ∧ Lists "b,*.corp" ["b", "*.corp"] ∧
      Rearranged [" *.corp ", "", "b"] ["b", "*.corp"] ∧
      (Selection.new (some "http://p:1") (some " ") (some " *.corp ,,b") none none).urlFor
        "a.corp" = none ∧
      (Selection.new (some "http://p:1") (some " ") (some " *.corp ,,b") none none).urlFor "acorp" =
        some "http://p:1" ∧
      (Selection.new (some "http://p:1") (some " ") (some "b,*.corp") none none).urlFor "acorp" =
        some "http://p:1" ∧
      (Selection.new (some "http://p:1") (some " ") (some "x, *.corp ,,b") none none).bypasses
        "a.corp" = true ∧
      covers ("*." ++ "corp") "acorp" = false := by
  have hlists : Lists ((some " *.corp ,,b").getD "") [" *.corp ", "", "b"] :=
    ⟨by decide, by decide⟩
  have hothers : Lists "b,*.corp" ["b", "*.corp"] := ⟨by decide, by decide⟩
  have hlonger : Lists "x, *.corp ,,b" ["x", " *.corp ", "", "b"] := ⟨by decide, by decide⟩
  have hblank : ∀ c ∈ " ".toList, Text.isBlank c = true := List.all_eq_true.1 (by decide)
  have htrimmed : Rearranged ((" " ++ "*.corp" ++ " ") :: ["", "b"]) ["*.corp", "", "b"] :=
    .blanks hblank hblank _ _
  have hmoved : Rearranged ["*.corp", "", "b"] ["", "b", "*.corp"] := .order (by decide)
  have hsame : Rearranged [" *.corp ", "", "b"] ["b", "*.corp"] :=
    (htrimmed.trans hmoved).trans (.empty _)
  have hexempt : IsExempt [" *.corp ", "", "b"] "a.corp" :=
    ⟨" *.corp ", List.mem_cons_self .., by decide, covers_iff.1 (by decide)⟩
  have hvoid : IsVoid (some " ") := by
    intro text htext
    obtain rfl := Option.some.inj htext
    exact hblank
  have hstated : ¬ IsVoid (some "http://p:1") :=
    fun h => absurd (h _ rfl 'h' (by decide)) (by decide)
  obtain ⟨-, hbelow⟩ :=
    proxied_unless_exempt (some "http://p:1") (some " ") (some " *.corp ,,b") none none "a.corp"
  obtain ⟨-, hbeside⟩ :=
    proxied_unless_exempt (some "http://p:1") (some " ") (some " *.corp ,,b") none none "acorp"
  obtain ⟨hnone, -, -, -, hmore, -⟩ := hbelow _ hlists
  obtain ⟨-, -, hplain, hrearranged, -, hletters⟩ := hbeside _ hlists
  have hcovered : covers ("*." ++ "corp") "acorp" = false := hletters "a" "corp" rfl (by decide)
  have hkept : ¬ IsExempt [" *.corp ", "", "b"] "acorp" := by
    rintro ⟨entry, hmem, hne, hexempts⟩
    have hcovers := covers_iff.2 hexempts
    simp only [List.mem_cons, List.not_mem_nil, or_false] at hmem
    rcases hmem with rfl | rfl | rfl
    · have hentry : Text.trim " *.corp " = "*." ++ "corp" := by decide
      rw [hentry, hcovered] at hcovers
      cases hcovers
    · exact hne (by decide)
    · exact absurd hcovers (by decide)
  have hfirst := hplain hkept hvoid hstated
  refine ⟨hlists, hothers, hsame, hnone.2 (.inr hexempt), hfirst,
    (hrearranged (some "b,*.corp") _ hothers hsame).trans hfirst, ?_, hcovered⟩
  exact hmore (some "x, *.corp ,,b") _ hlonger (List.subset_cons_self ..)
    ((Selection.bypasses_iff hlists).2 hexempt)

end MalwareScan.Proxy
