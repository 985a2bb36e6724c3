import MalwareScan.Proofs.Text.Characters
import MalwareScan.Proofs.Text.Composing
import MalwareScan.Url.Host

/-!
# Characters of domain names

Some ASCII characters never stand in a domain name. The normal form of a name has none of them
(`isAllowed_of_toAscii?`). Most of them get through all that is done to a name before it is
checked: percent-encoded bytes are decoded, letters are folded and marks are joined, but these
characters stay. So a text that is written with one of them is no name
(`toAscii?_eq_none_of_mem`).
-/

namespace MalwareScan.Url

open Text (Utf8.asciiByte Utf8.encode)
open Text.Composition (isAlone)

variable {c : Char} {cs : List Char} {b : UInt8} {bytes : Bytes}

/-- A byte that begins or continues no percent-encoded byte is left where it is. -/
theorem mem_percentDecode (hpercent : b ≠ 0x25) (hdigit : Hex.value? (Char.ofNat b.toNat) = none)
    (h : b ∈ bytes) : b ∈ percentDecode bytes := by
  fun_induction percentDecode bytes with
  | case1 first second rest byte hbyte ih =>
      simp only [hexByte?, bind, Option.bind_eq_some_iff] at hbyte
      obtain ⟨high, hhigh, low, hlow, -⟩ := hbyte
      simp only [List.mem_cons] at h
      rcases h with rfl | rfl | rfl | hmem
      · exact absurd rfl hpercent
      · cases hdigit.symm.trans hhigh
      · cases hdigit.symm.trans hlow
      · exact List.mem_cons_of_mem _ (ih hmem)
  | case2 first second rest _ ih =>
      rcases List.mem_cons.1 h with rfl | hmem
      · exact absurd rfl hpercent
      · exact List.mem_cons_of_mem _ (ih hmem)
  | case3 first rest _ ih =>
      exact List.mem_cons.2 ((List.mem_cons.1 h).imp_right ih)
  | case4 => exact h

namespace Domain

/-! ## Characters that are written -/

/-- A character that no domain name has, and that nothing which is done to a name changes. -/
def isSeparator (c : Char) : Bool :=
  isForbidden c && !(['%', '<', '>'].contains c)

/-- Such a character is one of ASCII. -/
theorem lt_of_isSeparator (h : isSeparator c = true) : c.toNat < 128 := by
  have hsigns : ∀ c ∈ ['%', '#', '/', ':', '<', '>', '?', '@', '[', '\\', ']', '^', '|'],
      c.toNat < 128 := Text.forall_of_all (by decide)
  obtain ⟨hforbidden, -⟩ := Bool.and_eq_true_iff.1 h
  simp only [isForbidden, Bool.or_eq_true, decide_eq_true_eq, beq_iff_eq,
    List.contains_iff_mem] at hforbidden
  rcases hforbidden with (hlow | hdelete) | hsign
  · omega
  · omega
  · exact hsigns c hsign

/-- It is no digit and no letter, and no mark is joined to it. -/
theorem isSeparator_spec (h : isSeparator c = true) :
    c ≠ '%' ∧ Hex.value? c = none ∧ c.toLower = c ∧ isAlone c = true := by
  have hascii : ∀ n < 128, isSeparator (Char.ofNat n) = true →
      Char.ofNat n ≠ '%' ∧ Hex.value? (Char.ofNat n) = none ∧
        (Char.ofNat n).toLower = Char.ofNat n ∧ isAlone (Char.ofNat n) = true := by
    decide
  have hspec := hascii c.toNat (lt_of_isSeparator h)
  rw [Char.ofNat_toNat] at hspec
  exact hspec h

/-- The folded and composed form of a name has the separators that the name has. -/
theorem mem_normalForm (hc : isSeparator c = true) (h : c ∈ cs) : c ∈ normalForm cs := by
  obtain ⟨-, -, hlower, halone⟩ := isSeparator_spec hc
  have hfold : fold c = [c] := by
    rw [fold, if_pos (lt_of_isSeparator hc), hlower]
  have hfolded : c ∈ cs.flatMap fold :=
    List.mem_flatMap.2 ⟨c, h, by rw [hfold]; exact List.mem_singleton.2 rfl⟩
  rw [normalForm]
  split
  · exact hfolded
  · exact Text.mem_compose halone hfolded

/-- What was asked for holds. -/
theorem of_guard {p : Prop} [Decidable p] {u : Unit} (h : guard p = some u) : p := by
  by_cases hp : p
  · exact hp
  · cases (if_neg hp).symm.trans h

/-- A text with a separator is no domain name. -/
theorem toAscii?_eq_none_of_mem (hc : isSeparator c = true) (h : c ∈ cs) :
    toAscii? (percentDecode (Text.Utf8.encode (String.ofList cs))) = none := by
  obtain ⟨hpercent, hdigit, -, -⟩ := isSeparator_spec hc
  have hlt := lt_of_isSeparator hc
  have hbyte := Text.Utf8.toNat_asciiByte hlt
  have hmem : Utf8.asciiByte c ∈ percentDecode (Utf8.encode (String.ofList cs)) := by
    refine mem_percentDecode (fun heq => hpercent ?_) (by rw [hbyte, Char.ofNat_toNat, hdigit]) ?_
    · rw [heq] at hbyte
      exact Char.toNat_inj.1 hbyte.symm
    · rw [Text.Utf8.mem_encode_iff hlt, String.toList_ofList]
      exact h
  refine Option.eq_none_iff_forall_ne_some.2 fun name hname => ?_
  unfold toAscii? at hname
  obtain ⟨text, htext, hname⟩ := Option.bind_eq_some_iff.1 hname
  obtain ⟨_, hguard, -⟩ := Option.bind_eq_some_iff.1 hname
  rw [← Text.Utf8.encode_of_decode? htext, Text.Utf8.mem_encode_iff hlt] at hmem
  have hforbidden : (normalForm text.toList).any isForbidden = true :=
    List.any_eq_true.2 ⟨c, mem_normalForm hc hmem, (Bool.and_eq_true_iff.1 hc).1⟩
  have hnone := of_guard hguard
  rw [hforbidden] at hnone
  cases hnone

/-! ## Characters that are left -/

/-- A text of characters that may stand in a domain name. -/
def IsAllowed (cs : List Char) : Prop :=
  ∀ c ∈ cs, isForbidden c = false

instance (cs : List Char) : Decidable (IsAllowed cs) :=
  List.decidableBAll (fun c => isForbidden c = false) cs

/-- Nothing forbidden is found in such a text. -/
theorem any_isForbidden_eq_false_iff : cs.any isForbidden = false ↔ IsAllowed cs := by
  simp [IsAllowed, List.any_eq_false]

end Domain

namespace Punycode

open Domain (IsAllowed isForbidden)

/-- The digits of punycode are letters and digits. -/
theorem not_isForbidden_digit {n : Nat} (h : n < 36) : isForbidden (digit n) = false := by
  have hdigits : ∀ n < 36, isForbidden (digit n) = false := by decide
  exact hdigits n h

/-- A threshold is small. -/
theorem threshold_le (k bias : Nat) : threshold k bias ≤ 26 := by
  unfold threshold
  split
  · decide
  · split <;> omega

/-- A distance is written in digits. -/
theorem isAllowed_writeDigits (bias fuel k q : Nat) : IsAllowed (writeDigits bias fuel k q) := by
  induction fuel generalizing k q with
  | zero => exact List.forall_mem_nil _
  | succ fuel ih =>
      have hle := threshold_le k bias
      simp only [writeDigits]
      split
      · exact List.forall_mem_cons.2 ⟨not_isForbidden_digit (by omega), List.forall_mem_nil _⟩
      · have hrest : (q - threshold k bias) % (36 - threshold k bias) < 36 - threshold k bias :=
          Nat.mod_lt _ (by omega)
        exact List.forall_mem_cons.2 ⟨not_isForbidden_digit (by omega), ih _ _⟩

/-- A pass writes digits. -/
theorem isAllowed_pass (basic : Nat) (cs : List Char) (w : Writer) :
    IsAllowed (pass basic cs w).1 := by
  induction cs generalizing w with
  | nil => exact List.forall_mem_nil _
  | cons c cs ih =>
      simp only [pass]
      split
      · exact ih _
      · split
        · exact List.forall_mem_append.2 ⟨isAllowed_writeDigits _ _ _ _, ih _⟩
        · exact ih _

/-- So do all passes. -/
theorem isAllowed_passes (label : List Char) (basic fuel : Nat) (w : Writer) :
    IsAllowed (passes label basic fuel w) := by
  induction fuel generalizing w with
  | zero => exact List.forall_mem_nil _
  | succ fuel ih =>
      simp only [passes]
      split
      · exact List.forall_mem_nil _
      · exact List.forall_mem_append.2 ⟨isAllowed_pass _ _ _, ih _⟩

/-- The punycode of a label has no character that is not allowed if the label has none. -/
theorem isAllowed_encode {label : List Char} (h : IsAllowed label) : IsAllowed (encode label) := by
  have hbasic : IsAllowed (label.filter fun c => c.toNat < 128) :=
    fun c hc => h c (List.mem_filter.1 hc).1
  simp only [encode]
  refine List.forall_mem_append.2 ⟨?_, isAllowed_passes _ _ _ _⟩
  split
  · exact List.forall_mem_nil _
  · exact List.forall_mem_append.2 ⟨hbasic, Text.forall_of_all (by decide)⟩

end Punycode

namespace Domain

/-- What a list was mapped to comes from one of its members. -/
theorem exists_of_mem_mapM {α β : Type} {f : α → Option β} {xs : List α} {ys : List β} {y : β}
    (h : xs.mapM f = some ys) (hy : y ∈ ys) : ∃ x ∈ xs, f x = some y := by
  induction xs generalizing ys with
  | nil =>
      cases h
      cases hy
  | cons x xs ih =>
      simp only [List.mapM_cons, bind, pure, Option.bind_eq_some_iff, Option.some.injEq] at h
      obtain ⟨first, hfirst, rest, hrest, rfl⟩ := h
      rcases List.mem_cons.1 hy with rfl | hmem
      · exact ⟨x, by simp, hfirst⟩
      · obtain ⟨x', hx', hfx'⟩ := ih hrest hmem
        exact ⟨x', by simp [hx'], hfx'⟩

/-- What a label stands for is checked, or it is the label. -/
theorem isAllowed_plainLabel? {label plain : List Char} (hlabel : IsAllowed label)
    (h : plainLabel? label = some plain) : IsAllowed plain := by
  unfold plainLabel? at h
  by_cases hmark : label.take 4 = punycodeMark
  · rw [if_pos hmark] at h
    obtain ⟨_, -, h⟩ := Option.bind_eq_some_iff.1 h
    obtain ⟨decoded, -, h⟩ := Option.bind_eq_some_iff.1 h
    obtain ⟨_, hguard, h⟩ := Option.bind_eq_some_iff.1 h
    cases h
    have hallowed := of_guard hguard
    simp only [Bool.and_eq_true, Bool.not_eq_true'] at hallowed
    exact any_isForbidden_eq_false_iff.1 hallowed.2
  · rw [if_neg hmark] at h
    obtain ⟨-, h⟩ := Option.ite_none_right_eq_some.1 h
    cases h
    exact hlabel

/-- The ASCII form of a label keeps to these characters. -/
theorem isAllowed_asciiLabel {plain : List Char} (h : IsAllowed plain) :
    IsAllowed (asciiLabel plain) := by
  unfold asciiLabel
  split
  · exact h
  · exact List.forall_mem_append.2 ⟨Text.forall_of_all (by decide), Punycode.isAllowed_encode h⟩

/-- The ASCII form of a domain name has no character that is not allowed. -/
theorem isAllowed_of_toAscii? {name : List Char} (h : toAscii? bytes = some name) :
    IsAllowed name := by
  unfold toAscii? at h
  obtain ⟨text, -, h⟩ := Option.bind_eq_some_iff.1 h
  obtain ⟨_, hguard, h⟩ := Option.bind_eq_some_iff.1 h
  obtain ⟨labels, hlabels, h⟩ := Option.bind_eq_some_iff.1 h
  obtain ⟨_, -, h⟩ := Option.bind_eq_some_iff.1 h
  cases h
  have hnormal : IsAllowed (normalForm text.toList) :=
    any_isForbidden_eq_false_iff.1 (by simpa using of_guard hguard)
  refine Text.forall_intercalate (Text.forall_of_all (by decide)) fun part hpart => ?_
  obtain ⟨plain, hplain, rfl⟩ := List.mem_map.1 hpart
  obtain ⟨label, hlabel, hread⟩ := exists_of_mem_mapM hlabels hplain
  exact isAllowed_asciiLabel
    (isAllowed_plainLabel? (Text.forall_of_mem_splitOn hnormal hlabel) hread)

end Domain

end MalwareScan.Url
