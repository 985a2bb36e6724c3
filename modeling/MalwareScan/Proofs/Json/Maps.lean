import MalwareScan.Json.Canonical
import Mathlib.Data.String.Basic

/-!
# Objects as maps

The members of an object are put into a map one after the other. The map has each name once, in
increasing order, with the value of the last member of this name.
-/

namespace MalwareScan.Json

/-- Each member has a greater name than those before it. -/
def IsMap (members : List (String × Json)) : Prop :=
  members.Pairwise fun a b => a.1 < b.1

variable {name : String} {value : Json} {map : List (String × Json)}

/-- A map with one more member has this one instead of any other of the same name. -/
theorem mem_insertMember (h : IsMap map) {other : String × Json} :
    other ∈ insertMember name value map ↔ other = (name, value) ∨ other.1 ≠ name ∧ other ∈ map := by
  induction map with
  | nil => simp [insertMember]
  | cons head map ih =>
      obtain ⟨key, old⟩ := head
      obtain ⟨hhead, hmap⟩ := List.pairwise_cons.mp h
      rw [insertMember]
      split
      next hlt =>
        have hne : other ∈ (key, old) :: map → other.1 ≠ name := fun hmem => by
          rcases List.mem_cons.mp hmem with rfl | hrest
          · exact hlt.ne'
          · exact (hlt.trans (hhead other hrest)).ne'
        rw [List.mem_cons, and_iff_right_of_imp hne]
      next hle =>
        split
        next heq =>
          subst heq
          have hne : other ∈ map → other.1 ≠ name := fun hmem => (hhead other hmem).ne'
          have hold : ¬ (other.1 ≠ name ∧ other = (name, old)) :=
            fun ⟨hname, heq⟩ => hname (heq ▸ rfl)
          rw [List.mem_cons, List.mem_cons, and_or_left, and_iff_right_of_imp hne,
            or_iff_right hold]
        next hne =>
          have hkey : other = (key, old) → other.1 ≠ name := fun heq => heq ▸ Ne.symm hne
          rw [List.mem_cons, List.mem_cons, ih hmap, and_or_left, and_iff_right_of_imp hkey,
            or_left_comm]

/-- A map with one more member is a map. -/
theorem IsMap.insertMember (h : IsMap map) (name : String) (value : Json) :
    IsMap (insertMember name value map) := by
  induction map with
  | nil => exact List.pairwise_singleton _ _
  | cons head map ih =>
      obtain ⟨key, old⟩ := head
      obtain ⟨hhead, hmap⟩ := List.pairwise_cons.mp h
      rw [Json.insertMember]
      split
      next hlt =>
        exact List.pairwise_cons.mpr ⟨List.forall_mem_cons.mpr
          ⟨hlt, fun member hmember => hlt.trans (hhead member hmember)⟩, h⟩
      next hle =>
        split
        next heq =>
          subst heq
          exact List.pairwise_cons.mpr ⟨hhead, hmap⟩
        next hne =>
          refine List.pairwise_cons.mpr ⟨fun member hmember => ?_, ih hmap⟩
          rcases (mem_insertMember hmap).mp hmember with rfl | ⟨-, hold⟩
          · exact lt_of_le_of_ne (not_lt.mp hle) (Ne.symm hne)
          · exact hhead member hold

/-- A member whose name is greater than all others is put at the end. -/
theorem insertMember_of_forall_lt (h : ∀ member ∈ map, member.1 < name) :
    insertMember name value map = map ++ [(name, value)] := by
  induction map with
  | nil => rfl
  | cons head map ih =>
      obtain ⟨key, old⟩ := head
      obtain ⟨hhead, hmap⟩ := List.forall_mem_cons.mp h
      rw [insertMember, if_neg hhead.asymm, if_neg hhead.ne', ih hmap, List.cons_append]

end MalwareScan.Json
