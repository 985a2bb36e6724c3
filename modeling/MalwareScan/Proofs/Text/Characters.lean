import MalwareScan.Text.Blank
import MalwareScan.Text.Utf8

/-!
# Characters of texts

What holds of the characters of a text holds of those of its parts, and the other way round. Among
the bytes of a text, those below 128 are its characters of ASCII (`mem_encode_iff`).
-/

namespace MalwareScan.Text

/-- What is decided for each character of a text holds of all. -/
theorem forall_of_all {P : Char → Prop} [DecidablePred P] {cs : List Char}
    (h : (cs.all fun c => decide (P c)) = true) : ∀ c ∈ cs, P c := by
  simpa using h

/-! ## Texts between separators -/

section

variable {P : Char → Prop} {cs separator part : List Char} {parts : List (List Char)} {d : Char}

/-- What is in a part is in the whole. -/
theorem subset_intercalate (separator : List Char) (h : part ∈ parts) :
    part ⊆ separator.intercalate parts := by
  induction parts with
  | nil => cases h
  | cons first rest ih =>
      cases rest with
      | nil =>
          rw [List.mem_singleton.1 h, List.intercalate_singleton]
          exact List.Subset.refl _
      | cons second rest =>
          rw [List.intercalate_cons_cons]
          intro c hc
          rcases List.mem_cons.1 h with rfl | hmem
          · simp [hc]
          · exact List.mem_append_right _ (ih hmem hc)

/-- What holds of the characters of the parts and of those between them holds of all. -/
theorem forall_intercalate (hseparator : ∀ c ∈ separator, P c)
    (h : ∀ part ∈ parts, ∀ c ∈ part, P c) : ∀ c ∈ separator.intercalate parts, P c := by
  induction parts with
  | nil => simp
  | cons first rest ih =>
      obtain ⟨hfirst, hrest⟩ := List.forall_mem_cons.1 h
      cases rest with
      | nil => simpa using hfirst
      | cons second rest =>
          rw [List.intercalate_cons_cons]
          exact List.forall_mem_append.2 ⟨List.forall_mem_append.2 ⟨hfirst, hseparator⟩, ih hrest⟩

/-- Every text consists of parts without the separator, with one separator between each two of
them. -/
theorem exists_intercalate (d : Char) (cs : List Char) :
    ∃ parts, parts ≠ [] ∧ (∀ part ∈ parts, d ∉ part) ∧ [d].intercalate parts = cs := by
  induction cs with
  | nil => exact ⟨[[]], List.cons_ne_nil _ _, by simp, rfl⟩
  | cons c cs ih =>
      obtain ⟨parts, hne, hplain, rfl⟩ := ih
      obtain ⟨first, rest, rfl⟩ := List.exists_cons_of_ne_nil hne
      obtain ⟨hfirst, hrest⟩ := List.forall_mem_cons.1 hplain
      by_cases hc : c = d
      · -- A separator in front makes one more part, which is empty.
        subst hc
        refine ⟨[] :: first :: rest, List.cons_ne_nil _ _, ?_, ?_⟩
        · exact List.forall_mem_cons.2 ⟨List.not_mem_nil, hplain⟩
        · rw [List.intercalate_cons_cons]
          rfl
      · refine ⟨(c :: first) :: rest, List.cons_ne_nil _ _, ?_, ?_⟩
        · refine List.forall_mem_cons.2 ⟨fun hmem => ?_, hrest⟩
          exact (List.mem_cons.1 hmem).elim (fun heq => hc heq.symm) hfirst
        · cases rest with
          | nil => simp
          | cons second rest => simp [List.intercalate_cons_cons]

/-- A part of a text that is split has no separator. -/
theorem not_mem_of_mem_splitOn (h : part ∈ cs.splitOn d) : d ∉ part := by
  obtain ⟨parts, hne, hplain, rfl⟩ := exists_intercalate d cs
  rw [List.splitOn_intercalate d hplain hne] at h
  exact hplain part h

/-- What holds of all characters holds of those of a part. -/
theorem forall_of_mem_splitOn (h : ∀ c ∈ cs, P c) (hpart : part ∈ cs.splitOn d) :
    ∀ c ∈ part, P c := by
  have hwhole := subset_intercalate [d] hpart
  rw [List.intercalate_splitOn] at hwhole
  exact fun c hc => h c (hwhole hc)

/-- What holds of a separator and of the characters of the parts that it separates holds of all. -/
theorem forall_of_splitOn (hd : P d) (h : ∀ part ∈ cs.splitOn d, ∀ c ∈ part, P c) :
    ∀ c ∈ cs, P c := by
  rw [← @List.intercalate_splitOn _ cs _ _ d]
  exact forall_intercalate (by simpa using hd) h

end

/-! ## Parts and ends of texts -/

/-- A text has a part if this stands somewhere in it. -/
theorem isPart_iff {part cs : List Char} : isPart part cs = true ↔ part <:+: cs := by
  induction cs with
  | nil => rw [isPart, List.isEmpty_iff, List.infix_nil]
  | cons c cs ih =>
      rw [isPart, Bool.or_eq_true, List.isPrefixOf_iff_prefix, ih, List.infix_cons_iff]

section

variable {p : Char → Bool} {cs ds front back : List Char}

/-- The last character of a text is that of its last part that is not empty. -/
theorem getLast?_append_of {P : Char → Prop} (hds : ∀ c ∈ ds.getLast?, P c)
    (hcs : ds = [] → ∀ c ∈ cs.getLast?, P c) : ∀ c ∈ (cs ++ ds).getLast?, P c := by
  rw [List.getLast?_append]
  cases hlast : ds.getLast? with
  | none => exact hcs (List.getLast?_eq_none_iff.1 hlast)
  | some d => simpa [hlast] using hds

/-- What is taken of a text ends in front of a character that is not taken. -/
theorem takeWhile_append_eq (hcs : ∀ c ∈ cs, p c = true) (hds : ∀ c ∈ ds.head?, p c = false) :
    (cs ++ ds).takeWhile p = cs := by
  have htail : ds.takeWhile p = [] := by
    cases ds with
    | nil => rfl
    | cons d ds => exact List.takeWhile_cons_of_neg (by simp [hds d rfl])
  rw [List.takeWhile_append_of_pos hcs, htail, List.append_nil]

/-- What is dropped of it, too. -/
theorem dropWhile_append_eq (hcs : ∀ c ∈ cs, p c = true) (hds : ∀ c ∈ ds.head?, p c = false) :
    (cs ++ ds).dropWhile p = ds := by
  have hsplit := List.takeWhile_append_dropWhile (p := p) (l := cs ++ ds)
  rw [takeWhile_append_eq hcs hds] at hsplit
  exact List.append_cancel_left hsplit

/-- Nothing is left of a text of characters that are dropped. -/
theorem dropWhile_eq_nil (h : ∀ c ∈ cs, p c = true) : cs.dropWhile p = [] := by
  have hnil : ∀ c ∈ ([] : List Char).head?, p c = false := by simp
  simpa using dropWhile_append_eq h hnil

/-- Nothing is dropped at the end of a text in front of a character that stays. -/
theorem dropLastWhile_append (hlast : ∀ c ∈ cs.getLast?, p c = false) :
    dropLastWhile p (cs ++ ds) = cs ++ dropLastWhile p ds := by
  have hhead : cs.reverse.dropWhile p = cs.reverse :=
    dropWhile_append_eq (List.forall_mem_nil _) (by simpa using hlast)
  rw [dropLastWhile, dropLastWhile, List.reverse_append, List.dropWhile_append, hhead]
  split
  · rename_i hempty
    rw [List.isEmpty_iff.1 hempty]
    simp
  · simp

/-- Nothing is dropped at the end of a text whose last character stays. -/
theorem dropLastWhile_eq_self (hlast : ∀ c ∈ cs.getLast?, p c = false) :
    dropLastWhile p cs = cs := by
  have hnil : dropLastWhile p [] = [] := rfl
  have happend := @dropLastWhile_append p cs [] hlast
  rwa [hnil, List.append_nil] at happend

/-- Blanks around a text do not change what is left of it without the blanks at its ends. -/
theorem trimChars_surrounded (hfront : ∀ c ∈ front, isBlank c = true)
    (hback : ∀ c ∈ back, isBlank c = true) : trimChars (front ++ cs ++ back) = trimChars cs := by
  rw [trimChars, trimChars, List.append_assoc, List.dropWhile_append_of_pos hfront,
    List.dropWhile_append]
  split
  · -- Of blanks alone nothing is left, with more of them behind or without.
    rename_i hempty
    rw [dropWhile_eq_nil hback, List.isEmpty_iff.1 hempty]
  · rw [dropLastWhile, dropLastWhile, List.reverse_append,
      List.dropWhile_append_of_pos fun c hc => hback c (List.mem_reverse.1 hc)]

/-- Blanks around a text are all that is trimmed of it if it has none at its ends. -/
theorem trimChars_blanks (hfront : ∀ c ∈ front, isBlank c = true)
    (hback : ∀ c ∈ back, isBlank c = true)
    (hhead : ∀ c ∈ cs.head?, isBlank c = false) (hlast : ∀ c ∈ cs.getLast?, isBlank c = false) :
    trimChars (front ++ cs ++ back) = cs := by
  have hbegins : cs.dropWhile isBlank = cs := dropWhile_append_eq (List.forall_mem_nil _) hhead
  rw [trimChars_surrounded hfront hback, trimChars, hbegins, dropLastWhile_eq_self hlast]

end

/-! ## Bytes -/

namespace Utf8

variable {c d : Char} {s : String} {bytes : Bytes}

/-- The bytes that a text was read from are those of the text. -/
theorem encode_of_decode? (h : decode? bytes = some s) : encode s = bytes := by
  simp only [decode?, String.fromUTF8?] at h
  split at h
  · cases h
    rfl
  · cases h

/-- The bytes of a text are those of its characters. -/
theorem encode_eq_flatMap (s : String) : encode s = s.toList.flatMap String.utf8EncodeChar := by
  rw [encode, ← String.utf8Encode_toList, List.utf8Encode]
  simp

/-- The byte of a character of ASCII. -/
def asciiByte (c : Char) : UInt8 :=
  UInt8.ofNat c.toNat

/-- Its number is that of the character. -/
theorem toNat_asciiByte (h : c.toNat < 128) : (asciiByte c).toNat = c.toNat :=
  UInt8.toNat_ofNat_of_lt' (show c.toNat < 256 by omega)

/-- No greater byte is the byte of a character of ASCII. -/
theorem asciiByte_ne (h : c.toNat < 128) {n : Nat} (hle : 128 ≤ n) (hlt : n < 256) :
    asciiByte c ≠ UInt8.ofNat n := by
  intro heq
  have hbyte := toNat_asciiByte h
  rw [heq, UInt8.toNat_ofNat_of_lt' hlt] at hbyte
  omega

/-- This byte stands for this character alone. -/
theorem asciiByte_mem_iff (h : c.toNat < 128) :
    asciiByte c ∈ String.utf8EncodeChar d ↔ c = d := by
  constructor
  · -- All bytes are above 127 unless there is only one.
    fun_cases String.utf8EncodeChar d with
    | case1 v hd =>
        intro hmem
        have hbyte := congrArg UInt8.toNat (List.mem_singleton.1 hmem)
        rw [toNat_asciiByte h, UInt8.toNat_ofNat_of_lt' (show v < 256 by omega)] at hbyte
        exact Char.toNat_inj.1 hbyte
    | case2 v _ hd =>
        intro hmem
        simp only [List.mem_cons, List.not_mem_nil, or_false] at hmem
        rcases hmem with heq | heq
        all_goals exact absurd heq (asciiByte_ne h (by omega) (by omega))
    | case3 v _ _ hd =>
        intro hmem
        simp only [List.mem_cons, List.not_mem_nil, or_false] at hmem
        rcases hmem with heq | heq | heq
        all_goals exact absurd heq (asciiByte_ne h (by omega) (by omega))
    | case4 v _ _ hd =>
        intro hmem
        simp only [List.mem_cons, List.not_mem_nil, or_false] at hmem
        rcases hmem with heq | heq | heq | heq
        all_goals exact absurd heq (asciiByte_ne h (by omega) (by omega))
  · rintro rfl
    have hle : c.val.toNat ≤ 127 := Nat.le_of_lt_succ h
    rw [String.utf8EncodeChar, if_pos hle]
    exact List.mem_singleton.2 rfl

/-- A text has a character of ASCII if its bytes have that of the character. -/
theorem mem_encode_iff (h : c.toNat < 128) : asciiByte c ∈ encode s ↔ c ∈ s.toList := by
  rw [encode_eq_flatMap, List.mem_flatMap]
  simp only [asciiByte_mem_iff h, exists_eq_right']

end Utf8

end MalwareScan.Text
