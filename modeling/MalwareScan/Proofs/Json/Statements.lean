import MalwareScan.Proofs.Json.Texts
import Mathlib.Data.List.Forall2

/-!
# What states a value

A document may say more than it has to. `value.StatedBy reading` says that a document states
`value` and nothing else that matters: its objects have the members of the value in any order, and
between them may stand members with other names, whose values are any that the grammar admits.
-/

namespace MalwareScan.Json

/-- A member of an object and what stands for its value. -/
structure StatedMember where
  name : String
  value : Json
  reading : Reading

/-- The reading has the same items and the same members as the value, but the members of objects may
stand in another order, and among members with other names. -/
inductive StatedBy : Json → Reading → Prop where
  | null : StatedBy .null .null
  | boolean (b : Bool) : StatedBy (.boolean b) (.boolean b)
  | number (n : Number) : StatedBy (.number n) (.number n)
  | string (s : String) : StatedBy (.string s) (.string (.ok s))
  | array {items : List (Json × Reading)} (h : ∀ item ∈ items, StatedBy item.1 item.2) :
      StatedBy (.array (items.map Prod.fst)) (.array (items.map Prod.snd) none)
  | object {own : List StatedMember} {others : List (String × Reading)}
      {members : List (Except Breach String × Reading)}
      (hown : ∀ member ∈ own, StatedBy member.value member.reading)
      (hnames : ∀ other ∈ others, other.1 ∉ own.map StatedMember.name)
      (hothers : ∀ other ∈ others, ∃ cs, Spells other.2 cs)
      (hmembers : members.Perm (own.map (fun member => (.ok member.name, member.reading)) ++
        others.map fun other => (.ok other.1, other.2))) :
      StatedBy (.object (own.map fun member => (member.name, member.value))) (.object members none)

variable {reading : Reading}

/-- Only `null` is stated by `null`. -/
theorem StatedBy.ne_null {value : Json} (h : value.StatedBy reading) (hvalue : value ≠ .null) :
    reading ≠ .null := by
  cases h with
  | null => exact absurd rfl hvalue
  | _ => nofun

/-- An array is stated item by item. -/
theorem StatedBy.of_array {items : List Json} (h : (Json.array items).StatedBy reading) :
    ∃ readings, reading = .array readings none ∧ List.Forall₂ StatedBy items readings := by
  generalize harray : Json.array items = value at h
  cases h with
  | @array pairs hitems =>
      obtain rfl : items = pairs.map Prod.fst := by injection harray
      refine ⟨pairs.map Prod.snd, rfl, ?_⟩
      rw [List.forall₂_map_left_iff, List.forall₂_map_right_iff, List.forall₂_same]
      exact hitems
  | _ => cases harray

/-- An object is stated by its own members in some order, and by members with other names that are
not cut. -/
theorem StatedBy.of_object {fields : List (String × Json)}
    (h : (Json.object fields).StatedBy reading) :
    ∃ (own : List StatedMember) (others : List (String × Reading))
      (members : List (Except Breach String × Reading)),
      own.map (fun member => (member.name, member.value)) = fields ∧
        reading = .object members none ∧
      (∀ member ∈ own, member.value.StatedBy member.reading) ∧
      (∀ other ∈ others, other.1 ∉ own.map StatedMember.name) ∧
      (∀ other ∈ others, other.2.cut? = none) ∧
      members.Perm (own.map (fun member => (.ok member.name, member.reading)) ++
        others.map fun other => (.ok other.1, other.2)) := by
  generalize hobject : Json.object fields = value at h
  cases h with
  | @object own others members hown hnames hothers hmembers =>
      have hwhole : ∀ other ∈ others, other.2.cut? = none := fun other hother => by
        obtain ⟨cs, hspells⟩ := hothers other hother
        exact hspells.cut?_eq_none
      exact ⟨own, others, members, (Json.object.inj hobject).symm, rfl, hown, hnames, hwhole,
        hmembers⟩
  | _ => cases hobject

mutual

/-- A value is stated by what its text is read as. -/
theorem statedBy_reading (value : Json) : value.StatedBy value.reading := by
  match value with
  | .null => exact .null
  | .boolean b => exact .boolean b
  | .number n => exact .number n
  | .string s => exact .string s
  | .array items =>
      have hstated : ∀ item ∈ items.map fun item => (item, item.reading), item.1.StatedBy item.2 :=
        List.forall_mem_map.mpr (statedBy_readings items)
      have harray := StatedBy.array hstated
      have hitems : items.map (Prod.fst ∘ fun item => (item, item.reading)) = items :=
        List.map_id items
      rw [List.map_map, List.map_map, hitems] at harray
      rw [Json.reading, itemReadings_eq]
      exact harray
  | .object members =>
      let own (member : String × Json) : StatedMember := ⟨member.1, member.2, member.2.reading⟩
      have hstated : ∀ member ∈ members.map own, member.value.StatedBy member.reading :=
        List.forall_mem_map.mpr (statedBy_members members)
      have hobject := @StatedBy.object _ [] _ hstated nofun nofun (.refl _)
      have hmembers : members.map ((fun member => (member.name, member.value)) ∘ own) = members :=
        List.map_id members
      rw [List.map_nil, List.append_nil, List.map_map, List.map_map, hmembers] at hobject
      rw [Json.reading, memberReadings_eq]
      exact hobject

/-- Each item is stated by what its text is read as. -/
theorem statedBy_readings (items : List Json) : ∀ item ∈ items, item.StatedBy item.reading := by
  match items with
  | [] => exact nofun
  | item :: items => exact List.forall_mem_cons.mpr ⟨statedBy_reading item, statedBy_readings items⟩

/-- The value of each member is stated by what its text is read as. -/
theorem statedBy_members (members : List (String × Json)) :
    ∀ member ∈ members, member.2.StatedBy member.2.reading := by
  match members with
  | [] => exact nofun
  | (key, value) :: members =>
      exact List.forall_mem_cons.mpr ⟨statedBy_reading value, statedBy_members members⟩

end

end MalwareScan.Json
