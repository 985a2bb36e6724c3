/-!
# Lists by their places

The scans of a batch, and the scans and closings of a client, are lists in which a step replaces one
item or adds one at the end. These lemmas say which items are there afterwards, and how many of them
have a mark.
-/

namespace MalwareScan.Places

variable {α : Type} {p : α → Bool} {as bs : List α} {a b c : α} {i j : Nat}

/-- When an item was replaced, what stands at a place is the new item or stood there before. -/
theorem getElem?_set_cases (h : (as.set i b)[j]? = some c) :
    (j = i ∧ c = b) ∨ (j ≠ i ∧ as[j]? = some c) := by
  by_cases hsame : j = i
  · subst hsame
    have hlt : j < as.length := by
      simpa using (List.getElem?_eq_some_iff.1 h).1
    rw [List.getElem?_set_self hlt] at h
    exact .inl ⟨rfl, (Option.some.inj h).symm⟩
  · rw [List.getElem?_set_ne (Ne.symm hsame)] at h
    exact .inr ⟨hsame, h⟩

/-- When an item was added, what stands at a place stood there before or is the new item. -/
theorem getElem?_concat_cases (h : (as ++ [a])[j]? = some c) : as[j]? = some c ∨ c = a := by
  rw [List.getElem?_append] at h
  split at h
  · exact .inl h
  · exact .inr (List.mem_singleton.1 (List.mem_of_getElem? h))

/-- What holds of some item still does when an item is replaced by one that keeps it. -/
theorem exists_mem_set {P : α → Prop} (hi : as[i]? = some a) (hkept : P a → P b)
    (h : ∃ c ∈ as, P c) : ∃ c ∈ as.set i b, P c := by
  obtain ⟨c, hmem, hc⟩ := h
  obtain ⟨k, hk⟩ := List.mem_iff_getElem?.1 hmem
  by_cases hsame : k = i
  · subst hsame
    obtain rfl := Option.some.inj (hi.symm.trans hk)
    exact ⟨b, List.mem_set (List.getElem?_eq_some_iff.1 hi).1 _, hkept hc⟩
  · refine ⟨c, List.mem_iff_getElem?.2 ⟨k, ?_⟩, hc⟩
    rw [List.getElem?_set_ne (Ne.symm hsame)]
    exact hk

/-- One item that is replaced changes the number of marked items by at most one. -/
theorem countP_set_add (b : α) (h : as[i]? = some a) (p : α → Bool) :
    (as.set i b).countP p + (if p a then 1 else 0) = as.countP p + if p b then 1 else 0 := by
  obtain ⟨hi, rfl⟩ := List.getElem?_eq_some_iff.1 h
  have hcounted : (if p as[i] then 1 else 0) ≤ as.countP p := by
    split
    · exact List.countP_pos_iff.2 ⟨_, List.getElem_mem hi, ‹_›⟩
    · exact Nat.zero_le _
  rw [List.countP_set hi]
  omega

/-- A list without marks has no marked items. -/
theorem countP_eq_zero_of_any (h : ∀ i : Nat, (as[i]?).any p = false) : as.countP p = 0 := by
  refine List.countP_eq_zero.2 fun a ha hmarked => ?_
  obtain ⟨i, hi⟩ := List.mem_iff_getElem?.1 ha
  have hunmarked := h i
  rw [hi, Option.any_some, hmarked] at hunmarked
  cases hunmarked

/-- Lists with the same marks at all places have the same number of marked items. -/
theorem countP_congr_getElem? (h : ∀ i : Nat, (as[i]?).any p = (bs[i]?).any p) :
    as.countP p = bs.countP p := by
  induction as generalizing bs with
  | nil => exact (countP_eq_zero_of_any fun i => (h i).symm).symm
  | cons a as ih =>
      cases bs with
      | nil => exact countP_eq_zero_of_any h
      | cons b bs =>
          have hfirst : p a = p b := h 0
          have hrest := ih fun i => h (i + 1)
          rw [List.countP_cons, List.countP_cons, hfirst, hrest]

end MalwareScan.Places
