import MalwareScan.Net.Address
import MalwareScan.Proofs.Text.Characters

/-!
# Characters of addresses

An address is written in hexadecimal digits, dots and colons: nothing else is read as an address,
and nothing else is shown of one.
-/

namespace MalwareScan.Net

open Text (forall_intercalate forall_of_splitOn)

variable {c : Char} {cs : List Char} {parts : List (List Char)} {groups : List UInt16}

/-- A character that stands in addresses. -/
def isAddressChar (c : Char) : Bool :=
  (Hex.value? c).isSome || c == '.' || c == ':'

/-- A text of such characters. -/
def IsAddressText (cs : List Char) : Prop :=
  ∀ c ∈ cs, isAddressChar c = true

instance (cs : List Char) : Decidable (IsAddressText cs) :=
  List.decidableBAll (fun c => isAddressChar c = true) cs

/-- Hexadecimal digits stand in addresses. -/
theorem isAddressChar_of_value? {n : Nat} (h : Hex.value? c = some n) : isAddressChar c = true := by
  rw [isAddressChar, h]
  rfl

/-- So do decimal ones. -/
theorem isAddressChar_of_isDigit (h : c.isDigit = true) : isAddressChar c = true := by
  have hlow : 48 ≤ c.toNat := (Char.isDigit_iff_toNat.1 h).1
  have hhigh : c.toNat ≤ 57 := (Char.isDigit_iff_toNat.1 h).2
  have hvalue : Hex.value? c = some (c.toNat - 48) := by
    simp [Hex.value?, hlow, hhigh]
  exact isAddressChar_of_value? hvalue

/-! ## Addresses that are read -/

/-- What has a hexadecimal value is made of digits. -/
theorem isAddressText_of_hexValue? {value : Nat} (h : hexValue? cs = some value) :
    IsAddressText cs := by
  rw [hexValue?] at h
  generalize 0 = start at h
  induction cs generalizing start with
  | nil => exact List.forall_mem_nil _
  | cons c cs ih =>
      rw [List.foldlM_cons] at h
      obtain ⟨next, hnext, hrest⟩ := Option.bind_eq_some_iff.1 h
      obtain ⟨digit, hdigit, -⟩ := Option.map_eq_some_iff.1 hnext
      exact List.forall_mem_cons.2 ⟨isAddressChar_of_value? hdigit, ih next hrest⟩

/-- So is a group. -/
theorem isAddressText_of_group? {group : UInt16} (h : group? cs = some group) :
    IsAddressText cs := by
  rw [group?] at h
  split at h
  · cases h
  · obtain ⟨value, hvalue, -⟩ := Option.map_eq_some_iff.1 h
    exact isAddressText_of_hexValue? hvalue

/-- So is a part of an IPv4 address. -/
theorem isAddressText_of_octet? {byte : UInt8} (h : octet? cs = some byte) : IsAddressText cs := by
  rw [octet?] at h
  split at h
  · cases h
  · rename_i hdigits
    simp only [not_or, List.any_eq_true, not_exists, not_and, Bool.not_eq_true',
      Bool.not_eq_false] at hdigits
    exact fun c hc => isAddressChar_of_isDigit (hdigits.2.2 c hc)

/-- An IPv4 address is read from digits and dots. -/
theorem Ipv4.isAddressText_of_parse? {ip : Ipv4} (h : Ipv4.parse? cs = some ip) :
    IsAddressText cs := by
  rw [Ipv4.parse?] at h
  split at h
  · rename_i first second third fourth hsplit
    simp only [bind, Option.bind_eq_some_iff] at h
    obtain ⟨_, hfirst, _, hsecond, _, hthird, _, hfourth, -⟩ := h
    refine forall_of_splitOn (d := '.') rfl ?_
    rw [hsplit]
    simp only [List.forall_mem_cons]
    exact ⟨isAddressText_of_octet? hfirst, isAddressText_of_octet? hsecond,
      isAddressText_of_octet? hthird, isAddressText_of_octet? hfourth, List.forall_mem_nil _⟩
  · cases h

/-- Groups are read from texts of such characters. -/
theorem isAddressText_of_groups? (h : groups? parts = some groups) :
    ∀ part ∈ parts, IsAddressText part := by
  fun_induction groups? parts generalizing groups with
  | case1 => exact List.forall_mem_nil _
  | case2 last _ =>
      obtain ⟨ip, hip, -⟩ := Option.map_eq_some_iff.1 h
      simpa using Ipv4.isAddressText_of_parse? hip
  | case3 last _ =>
      obtain ⟨group, hgroup, -⟩ := Option.map_eq_some_iff.1 h
      simpa using isAddressText_of_group? hgroup
  | case4 part parts _ ih =>
      simp only [bind, Option.bind_eq_some_iff] at h
      obtain ⟨group, hgroup, rest, hrest, -⟩ := h
      exact List.forall_mem_cons.2 ⟨isAddressText_of_group? hgroup, ih hrest⟩

/-- So is each side of two colons. -/
theorem isAddressText_of_side? (h : side? cs = some groups) : IsAddressText cs := by
  rw [side?] at h
  split at h
  · rename_i hempty
    rw [List.isEmpty_iff.1 hempty]
    exact List.forall_mem_nil _
  · exact forall_of_splitOn (d := ':') rfl (isAddressText_of_groups? h)

/-- The sides stand before and behind two colons. -/
theorem eq_of_splitDouble {front back : List Char} (h : splitDouble cs = some (front, back)) :
    cs = front ++ [':', ':'] ++ back := by
  fun_induction splitDouble cs generalizing front with
  | case1 rest =>
      cases h
      rfl
  | case2 c rest _ ih =>
      obtain ⟨⟨front', back'⟩, hrest, heq⟩ := Option.map_eq_some_iff.1 h
      cases heq
      rw [ih hrest]
      rfl
  | case3 => cases h

/-- An IPv6 address is read from hexadecimal digits, colons and dots. -/
theorem Ipv6.isAddressText_of_parse? {ip : Ipv6} (h : Ipv6.parse? cs = some ip) :
    IsAddressText cs := by
  rw [Ipv6.parse?] at h
  split at h
  · obtain ⟨groups, hside, -⟩ := Option.bind_eq_some_iff.1 h
    exact isAddressText_of_side? hside
  · rename_i front back hsplit
    split at h
    · cases h
    · simp only [bind, Option.bind_eq_some_iff] at h
      obtain ⟨head, hhead, tail, htail, -⟩ := h
      rw [eq_of_splitDouble hsplit]
      refine List.forall_mem_append.2
        ⟨List.forall_mem_append.2 ⟨?_, Text.forall_of_all (by decide)⟩, ?_⟩
      · exact isAddressText_of_side? hhead
      · exact isAddressText_of_side? htail

/-! ## Addresses that are shown -/

/-- The digits of a number are digits below its base. -/
theorem exists_of_mem_toDigits {base n : Nat} (hbase : 1 < base) (h : c ∈ Nat.toDigits base n) :
    ∃ d < base, c = Nat.digitChar d := by
  induction n using Nat.strongRecOn with
  | ind n ih =>
      rcases Nat.lt_or_ge n base with hlt | hge
      · rw [Nat.toDigits_of_lt_base hlt, List.mem_singleton] at h
        exact ⟨n, hlt, h⟩
      · rw [Nat.toDigits_of_base_le hbase hge] at h
        rcases List.mem_append.1 h with hhigh | hlow
        · exact ih _ (Nat.div_lt_self (by omega) hbase) hhigh
        · exact ⟨n % base, Nat.mod_lt _ (by omega), List.mem_singleton.1 hlow⟩

/-- They stand in addresses. -/
theorem isAddressText_toDigits {base : Nat} (hbase : 1 < base) (hle : base ≤ 16) (n : Nat) :
    IsAddressText (Nat.toDigits base n) := by
  have hdigits : ∀ d < 16, isAddressChar (Nat.digitChar d) = true := by decide
  intro c hc
  obtain ⟨d, hd, rfl⟩ := exists_of_mem_toDigits hbase hc
  exact hdigits d (Nat.lt_of_lt_of_le hd hle)

/-- A number in base ten is written in digits. -/
theorem isAddressText_toString (n : Nat) : IsAddressText (toString n).toList := by
  show IsAddressText (String.ofList (Nat.toDigits 10 n)).toList
  rw [String.toList_ofList]
  exact isAddressText_toDigits (by decide) (by decide) n

/-- Texts of such characters stay so with such a character between them. -/
theorem isAddressText_join {separator : String} {texts : List String}
    (hseparator : IsAddressText separator.toList)
    (h : ∀ text ∈ texts, IsAddressText text.toList) :
    IsAddressText (separator.intercalate texts).toList := by
  rw [String.toList_intercalate]
  refine forall_intercalate hseparator fun part hpart => ?_
  obtain ⟨text, htext, rfl⟩ := List.mem_map.1 hpart
  exact h text htext

/-- An IPv4 address is shown in digits and dots. -/
theorem Ipv4.isAddressText_text (ip : Ipv4) : IsAddressText ip.text.toList := by
  refine isAddressText_join (by decide) fun text htext => ?_
  obtain ⟨b, -, rfl⟩ := List.mem_map.1 htext
  exact isAddressText_toString b.toNat

/-- Groups are shown in digits and colons. -/
theorem Ipv6.isAddressText_groups (groups : List UInt16) :
    IsAddressText (":".intercalate (groups.map groupText)).toList := by
  refine isAddressText_join (by decide) fun text htext => ?_
  obtain ⟨g, -, rfl⟩ := List.mem_map.1 htext
  rw [groupText, String.toList_ofList]
  exact isAddressText_toDigits (by decide) (by decide) g.toNat

/-- So is an IPv6 address. -/
theorem Ipv6.isAddressText_text (ip : Ipv6) : IsAddressText ip.text.toList := by
  simp only [Ipv6.text]
  split
  · exact isAddressText_groups _
  · rw [String.toList_append, String.toList_append]
    refine List.forall_mem_append.2
      ⟨List.forall_mem_append.2 ⟨?_, Text.forall_of_all (by decide)⟩, ?_⟩
    · exact isAddressText_groups _
    · exact isAddressText_groups _

end MalwareScan.Net
