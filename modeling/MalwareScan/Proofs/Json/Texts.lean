import MalwareScan.Proofs.Json.Values

/-!
# Written values are read back

`Json.reading` is what the text of a value is read as: the value itself, with nothing cut off.
That holds for all plain values, whose numbers are integers that fit 64 bits, since the text of
such a value spells it.
-/

namespace MalwareScan.Json

/-! ## The reading of a value -/

mutual

/-- What a value is read as. -/
def reading : Json → Reading
  | null => .null
  | boolean b => .boolean b
  | number n => .number n
  | string s => .string (.ok s)
  | array items => .array (itemReadings items) none
  | object members => .object (memberReadings members) none

/-- What the items of an array are read as. -/
def itemReadings : List Json → List Reading
  | [] => []
  | item :: items => item.reading :: itemReadings items

/-- What the members of an object are read as. -/
def memberReadings : List (String × Json) → List (Except Breach String × Reading)
  | [] => []
  | (key, value) :: members => (.ok key, value.reading) :: memberReadings members

end

/-! ## Plain values -/

mutual

/-- All numbers in the value are integers that fit 64 bits. -/
def IsPlain : Json → Prop
  | number (.integer n) => IsWord n
  | number (.decimal _) => False
  | array items => ArePlain items
  | object members => MembersPlain members
  | null | boolean _ | string _ => True

/-- All items are plain. -/
def ArePlain : List Json → Prop
  | [] => True
  | item :: items => item.IsPlain ∧ ArePlain items

/-- The values of all members are plain. -/
def MembersPlain : List (String × Json) → Prop
  | [] => True
  | (_, value) :: members => value.IsPlain ∧ MembersPlain members

end

/-- Items that are plain each are plain. -/
theorem arePlain_of_forall {items : List Json} (h : ∀ item ∈ items, item.IsPlain) :
    ArePlain items := by
  induction items with
  | nil => trivial
  | cons item items ih =>
      exact ⟨h item List.mem_cons_self,
        ih fun other hother => h other (List.mem_cons_of_mem _ hother)⟩

/-- Each of plain items is plain. -/
theorem ArePlain.forall {items : List Json} (h : ArePlain items) :
    ∀ item ∈ items, item.IsPlain := by
  induction items with
  | nil => exact nofun
  | cons item items ih => exact List.forall_mem_cons.mpr ⟨h.1, ih h.2⟩

/-- The value of each of plain members is plain. -/
theorem MembersPlain.forall {members : List (String × Json)} (h : MembersPlain members) :
    ∀ member ∈ members, member.2.IsPlain := by
  induction members with
  | nil => exact nofun
  | cons member members ih => exact List.forall_mem_cons.mpr ⟨h.1, ih h.2⟩

/-! ## The texts of values -/

/-- The items of an array stand between commas. -/
theorem intercalate_items (item : Json) (items : List Json) (rest : List Char) :
    [','].intercalate ((item :: items).map chars) ++ rest =
      item.chars ++ (moreItems items ++ rest) := by
  induction items generalizing item with
  | nil => rw [List.map_singleton, List.intercalate_singleton, moreItems, List.nil_append]
  | cons next items ih =>
      have hmore := ih next
      rw [List.map_cons] at hmore
      rw [List.map_cons, List.map_cons, List.intercalate_cons_cons, List.append_assoc, hmore,
        moreItems, List.append_assoc, List.singleton_append, List.cons_append, List.append_assoc]

/-- A member and its text. -/
def spelledMember (member : String × Json) : SpelledMember :=
  ⟨.ok member.1, quoted member.1, member.2.reading, member.2.chars⟩

/-- The members of an object stand between commas. -/
theorem intercalate_members (key : String) (value : Json) (members : List (String × Json))
    (rest : List Char) :
    [','].intercalate (((key, value) :: members).map fun member => (spelledMember member).chars) ++
        rest =
      quoted key ++ ':' :: (value.chars ++ (moreMembers members ++ rest)) := by
  induction members generalizing key value with
  | nil =>
      rw [List.map_singleton, List.intercalate_singleton, spelledMember, SpelledMember.chars,
        List.append_assoc]
      rfl
  | cons next members ih =>
      have hmore := ih next.1 next.2
      rw [List.map_cons] at hmore
      rw [List.map_cons, List.map_cons, List.intercalate_cons_cons, List.append_assoc, hmore,
        moreMembers, spelledMember, SpelledMember.chars]
      simp only [List.append_assoc, List.cons_append, List.nil_append]

/-- The items are read each. -/
theorem itemReadings_eq (items : List Json) : itemReadings items = items.map reading := by
  induction items with
  | nil => rfl
  | cons item items ih => rw [itemReadings, ih, List.map_cons]

/-- The members are read each. -/
theorem memberReadings_eq (members : List (String × Json)) :
    memberReadings members = members.map fun member => (.ok member.1, member.2.reading) := by
  induction members with
  | nil => rfl
  | cons member members ih => rw [memberReadings, ih, List.map_cons]

mutual

/-- The text of a plain value spells it. -/
theorem IsPlain.spells {value : Json} (h : value.IsPlain) : Spells value.reading value.chars := by
  match value with
  | .null => exact .null
  | .boolean b => exact .boolean b
  | .number (.integer n) => exact .number (spellsNumber_intChars h)
  | .string s => exact .string (spellsString_quoted s)
  | .array [] => exact .emptyArray areSpaces_nil
  | .array (item :: items) =>
      have hitems :
          ∀ other ∈ (item :: items).map (fun item => SpelledItem.mk item.reading item.chars),
            Spells other.value other.chars :=
        List.forall_mem_map.mpr (ArePlain.spells h)
      have hspells := Spells.array (by simp) hitems
      rw [List.map_map, List.map_map] at hspells
      rw [reading, itemReadings_eq, chars, ← intercalate_items]
      exact hspells
  | .object [] => exact .emptyObject areSpaces_nil
  | .object ((key, value) :: members) =>
      have hnames : ∀ member ∈ ((key, value) :: members).map spelledMember,
          SpellsName member.name member.nameChars :=
        List.forall_mem_map.mpr fun member _ => (spellsString_quoted member.1).spellsName
      have hvalues : ∀ member ∈ ((key, value) :: members).map spelledMember,
          Spells member.value member.valueChars :=
        List.forall_mem_map.mpr (MembersPlain.spells h)
      have hspells := Spells.object (by simp) hnames hvalues
      rw [List.map_map, List.map_map] at hspells
      rw [reading, memberReadings_eq, chars, ← intercalate_members]
      exact hspells

/-- The texts of plain items spell them. -/
theorem ArePlain.spells {items : List Json} (h : ArePlain items) :
    ∀ item ∈ items, Spells item.reading item.chars := by
  match items with
  | [] => exact nofun
  | item :: items => exact List.forall_mem_cons.mpr ⟨IsPlain.spells h.1, ArePlain.spells h.2⟩

/-- The texts of the values of plain members spell them. -/
theorem MembersPlain.spells {members : List (String × Json)} (h : MembersPlain members) :
    ∀ member ∈ members, Spells member.2.reading member.2.chars := by
  match members with
  | [] => exact nofun
  | (key, value) :: members =>
      exact List.forall_mem_cons.mpr ⟨IsPlain.spells h.1, MembersPlain.spells h.2⟩

end

/-- The text that is written for a plain value spells it. -/
theorem IsPlain.spells_render {value : Json} (h : value.IsPlain) :
    Spells value.reading value.render.toList := by
  rw [render, String.toList_ofList]
  exact h.spells

/-- The text of a plain value is read as this value, and nothing else. -/
theorem ofText_render {value : Json} (h : value.IsPlain) :
    Document.ofText value.render = ⟨value.reading, false⟩ :=
  h.spells_render.ofText

end MalwareScan.Json
