import MalwareScan.Proofs.Json.Maps
import MalwareScan.Proofs.Json.Texts

/-!
# Documents as values

`reading.Denotes value` says which value a document has, if its objects are maps and the last
member of a name counts: each document has at most one value. A reader finds it if arrays and
objects are nested no deeper than it allows, and finds the same value again when it is written and
read once more.
-/

namespace MalwareScan.Json

/-! ## The value of a document -/

/-- A member of an object and the value that it denotes. -/
structure DenotedMember where
  name : String
  reading : Reading
  value : Json

/-- The last one of the members with the name has the value. -/
def HasLast (own : List DenotedMember) (name : String) (value : Json) : Prop :=
  ∃ front member back, own = front ++ member :: back ∧ member.name = name ∧ member.value = value ∧
    ∀ later ∈ back, later.name ≠ name

/-- The document has the value. An object has the map in which each name has the value of its last
member. -/
inductive Reading.Denotes : Reading → Json → Prop where
  | null : Denotes .null .null
  | boolean (b : Bool) : Denotes (.boolean b) (.boolean b)
  | number (n : Number) : Denotes (.number n) (.number n)
  | string (s : String) : Denotes (.string (.ok s)) (.string s)
  | array {items : List (Reading × Json)} (h : ∀ item ∈ items, Denotes item.1 item.2) :
      Denotes (.array (items.map Prod.fst) none) (.array (items.map Prod.snd))
  | object {own : List DenotedMember} {map : List (String × Json)}
      (hown : ∀ member ∈ own, Denotes member.reading member.value) (hmap : IsMap map)
      (hlast : ∀ name value, (name, value) ∈ map ↔ HasLast own name value) :
      Denotes (.object (own.map fun member => (.ok member.name, member.reading)) none) (.object map)

/-- The items of an array denote those of its value. -/
theorem Reading.Denotes.of_array {readings : List Reading} {value : Json}
    (h : (Reading.array readings none).Denotes value) :
    ∃ items : List (Reading × Json), items.map Prod.fst = readings ∧
      value = .array (items.map Prod.snd) ∧ ∀ item ∈ items, item.1.Denotes item.2 := by
  generalize harray : Reading.array readings none = reading at h
  cases h with
  | @array items hitems => exact ⟨items, (Reading.array.inj harray).1.symm, rfl, hitems⟩
  | _ => cases harray

/-- The members of an object denote those of its map. -/
theorem Reading.Denotes.of_object {members : List (Except Breach String × Reading)} {value : Json}
    (h : (Reading.object members none).Denotes value) :
    ∃ (own : List DenotedMember) (map : List (String × Json)),
      own.map (fun member => (.ok member.name, member.reading)) = members ∧ value = .object map ∧
      (∀ member ∈ own, member.reading.Denotes member.value) ∧ IsMap map ∧
      ∀ name value, (name, value) ∈ map ↔ HasLast own name value := by
  generalize hobject : Reading.object members none = reading at h
  cases h with
  | @object own map hown hmap hlast =>
      exact ⟨own, map, (Reading.object.inj hobject).1.symm, rfl, hown, hmap, hlast⟩
  | _ => cases hobject

/-- A map is known by its members. -/
theorem IsMap.eq {map other : List (String × Json)} (h : IsMap map) (hother : IsMap other)
    (hmem : ∀ member, member ∈ map ↔ member ∈ other) : map = other := by
  have hnodup : ∀ {map : List (String × Json)}, IsMap map → map.Nodup := fun hmap =>
    hmap.imp fun hlt heq => hlt.ne (congrArg Prod.fst heq)
  exact ((List.perm_ext_iff_of_nodup (hnodup h) (hnodup hother)).mpr hmem).eq_of_pairwise
    (fun a b _ _ hab hba => absurd hab hba.asymm) h hother

/-- Lists are the same whose keys are, if the keys tell their elements apart. -/
theorem eq_of_map_eq {α β : Type} {key : α → β} {xs ys : List α} (hkeys : xs.map key = ys.map key)
    (h : ∀ x ∈ xs, ∀ y ∈ ys, key x = key y → x = y) : xs = ys := by
  refine List.ext_getElem (by simpa using congrArg List.length hkeys) fun i hx hy => ?_
  refine h _ (List.getElem_mem hx) _ (List.getElem_mem hy) ?_
  rw [← List.getElem_map key (h := by simpa using hx),
    ← List.getElem_map key (h := by simpa using hy)]
  exact List.getElem_of_eq hkeys _

/-- A document has one value only. -/
theorem Reading.Denotes.unique {reading : Reading} {value other : Json} (h : reading.Denotes value)
    (hother : reading.Denotes other) : value = other := by
  induction h generalizing other with
  | null | boolean | number | string => cases hother; rfl
  | @array items _ ih =>
      obtain ⟨others, hreadings, rfl, hothers⟩ := hother.of_array
      have hsame : items = others :=
        eq_of_map_eq hreadings.symm fun item hitem other hother hreading =>
        Prod.ext hreading (ih item hitem (hreading ▸ hothers other hother))
      rw [hsame]
  | @object own map _ hmap hlast ih =>
      obtain ⟨others, otherMap, hreadings, rfl, hothers, hotherMap, hotherLast⟩ := hother.of_object
      have hsame : own = others := by
        refine eq_of_map_eq hreadings.symm fun member hmember other hother heq => ?_
        obtain ⟨name, reading, value⟩ := member
        obtain ⟨name', reading', value'⟩ := other
        obtain ⟨hname, rfl⟩ := Prod.mk.inj heq
        obtain rfl := Except.ok.inj hname
        rw [show value = value' from ih _ hmember (hothers _ hother)]
      subst hsame
      exact congrArg Json.object (hmap.eq hotherMap fun member =>
        (hlast member.1 member.2).trans (hotherLast member.1 member.2).symm)

/-- What is last is among the members. -/
theorem HasLast.exists_mem {own : List DenotedMember} {name : String} {value : Json}
    (h : HasLast own name value) : ∃ member ∈ own, member.name = name ∧ member.value = value := by
  obtain ⟨front, member, back, rfl, hname, hvalue, -⟩ := h
  exact ⟨member, List.mem_append_right _ List.mem_cons_self, hname, hvalue⟩

/-- One more member is the last one of its name. -/
theorem hasLast_snoc {own : List DenotedMember} {member : DenotedMember} {name : String}
    {value : Json} :
    HasLast (own ++ [member]) name value ↔
      (name, value) = (member.name, member.value) ∨
        name ≠ member.name ∧ HasLast own name value := by
  constructor
  · rintro ⟨front, last, back, hown, rfl, rfl, hlater⟩
    rcases List.eq_nil_or_concat back with rfl | ⟨more, final, rfl⟩
    · obtain ⟨-, rfl⟩ := List.append_inj' hown rfl |>.imp_right List.head_eq_of_cons_eq
      exact .inl rfl
    · rw [List.concat_eq_append] at hown hlater
      rw [← List.cons_append, ← List.append_assoc] at hown
      obtain ⟨hmore, hfinal⟩ := List.append_inj' hown rfl
      obtain rfl := List.head_eq_of_cons_eq hfinal
      obtain ⟨hlater, hname⟩ := List.forall_mem_append.mp hlater
      exact .inr ⟨(hname member List.mem_cons_self).symm, front, last, more, hmore, rfl, rfl,
        hlater⟩
  · rintro (heq | ⟨hname, front, last, back, rfl, hlast, hvalue, hlater⟩)
    · obtain ⟨rfl, rfl⟩ := Prod.mk.inj heq
      exact ⟨own, member, [], rfl, rfl, rfl, nofun⟩
    · refine ⟨front, last, back ++ [member], by simp, hlast, hvalue, ?_⟩
      exact List.forall_mem_append.mpr ⟨hlater, by simpa using hname.symm⟩

/-- The map that members make, one after the other. -/
def mapOf (own : List DenotedMember) : List (String × Json) :=
  own.foldl (fun map member => insertMember member.name member.value map) []

/-- It is a map in which each name has the value of its last member. -/
theorem isMap_mapOf (own : List DenotedMember) :
    IsMap (mapOf own) ∧ ∀ name value, (name, value) ∈ mapOf own ↔ HasLast own name value := by
  induction own using List.reverseRecOn with
  | nil =>
      refine ⟨.nil, fun name value => ⟨nofun, ?_⟩⟩
      rintro ⟨front, member, back, hown, -⟩
      simp at hown
  | append_singleton own member ih =>
      have hmap : mapOf (own ++ [member]) = insertMember member.name member.value (mapOf own) := by
        rw [mapOf, List.foldl_append]
        rfl
      rw [hmap]
      refine ⟨ih.1.insertMember _ _, fun name value => ?_⟩
      rw [mem_insertMember ih.1, hasLast_snoc, ih.2]

/-! ## Reading the value -/

mutual

/-- The value that is found is the one that the document has. -/
theorem denotes_of_value? (reading : Reading) {limit : Nat} {value : Json}
    (h : reading.value? limit = some value) : reading.Denotes value := by
  match reading with
  | .null => cases h; exact .null
  | .boolean b => cases h; exact .boolean b
  | .number n =>
      rw [Reading.value?] at h
      split at h <;> cases h
      exact .number n
  | .string (.ok s) => cases h; exact .string s
  | .array items none =>
      rw [Reading.value?] at h
      split at h
      · cases h
      · obtain ⟨values, hvalues, rfl⟩ := Option.map_eq_some_iff.mp h
        obtain ⟨pairs, rfl, rfl, hpairs⟩ := denotes_of_itemValues? items hvalues
        exact .array hpairs
  | .object members none =>
      rw [Reading.value?] at h
      split at h
      · cases h
      · obtain ⟨map, hmap, rfl⟩ := Option.map_eq_some_iff.mp h
        obtain ⟨own, rfl, hown, rfl⟩ := denotes_of_memberValues? members hmap
        exact .object hown (isMap_mapOf own).1 (isMap_mapOf own).2

/-- The values that are found are those of the items. -/
theorem denotes_of_itemValues? (items : List Reading) {limit : Nat} {values : List Json}
    (h : itemValues? limit items = some values) :
    ∃ pairs : List (Reading × Json), items = pairs.map Prod.fst ∧ values = pairs.map Prod.snd ∧
      ∀ pair ∈ pairs, pair.1.Denotes pair.2 := by
  match items with
  | [] => cases h; exact ⟨[], rfl, rfl, nofun⟩
  | item :: items =>
      simp only [itemValues?, Option.bind_eq_bind, Option.bind_eq_some_iff, Option.some.injEq] at h
      obtain ⟨value, hvalue, values, hvalues, rfl⟩ := h
      obtain ⟨pairs, rfl, rfl, hpairs⟩ := denotes_of_itemValues? items hvalues
      exact ⟨(item, value) :: pairs, rfl, rfl,
        List.forall_mem_cons.mpr ⟨denotes_of_value? item hvalue, hpairs⟩⟩

/-- The map that is made of the members has their values. -/
theorem denotes_of_memberValues? (members : List (Except Breach String × Reading)) {limit : Nat}
    {map result : List (String × Json)} (h : memberValues? limit members map = some result) :
    ∃ own : List DenotedMember,
      members = own.map (fun member => (.ok member.name, member.reading)) ∧
      (∀ member ∈ own, member.reading.Denotes member.value) ∧
      result = own.foldl (fun map member => insertMember member.name member.value map) map := by
  match members with
  | [] => cases h; exact ⟨[], rfl, nofun, rfl⟩
  | (.error _, _) :: _ => cases h
  | (.ok name, item) :: members =>
      simp only [memberValues?, Option.bind_eq_bind, Option.bind_eq_some_iff] at h
      obtain ⟨value, hvalue, hrest⟩ := h
      obtain ⟨own, rfl, hown, rfl⟩ := denotes_of_memberValues? members hrest
      exact ⟨⟨name, item, value⟩ :: own, rfl,
        List.forall_mem_cons.mpr ⟨denotes_of_value? item hvalue, hown⟩, rfl⟩

end

/-- The value of a text is the one of its document, and nothing follows the document. -/
theorem denotes_of_ofText? {text : String} {value : Json} (h : ofText? text = some value) :
    ∃ reading, Document.ofText text = ⟨reading, false⟩ ∧ reading.Denotes value := by
  rw [ofText?] at h
  generalize Document.ofText text = document at h
  obtain ⟨reading, trailing⟩ := document
  cases trailing with
  | true => cases h
  | false => exact ⟨reading, rfl, denotes_of_value? reading h⟩

/-! ## Sorted values -/

/-- All objects in the value are maps. -/
inductive IsSorted : Json → Prop where
  | null : IsSorted .null
  | boolean (b : Bool) : IsSorted (.boolean b)
  | number (n : Number) : IsSorted (.number n)
  | string (s : String) : IsSorted (.string s)
  | array {items : List Json} (h : ∀ item ∈ items, IsSorted item) : IsSorted (.array items)
  | object {members : List (String × Json)} (hmap : IsMap members)
      (h : ∀ member ∈ members, IsSorted member.2) : IsSorted (.object members)

/-- The value of a document is sorted. -/
theorem Reading.Denotes.isSorted {reading : Reading} {value : Json} (h : reading.Denotes value) :
    value.IsSorted := by
  induction h with
  | null => exact .null
  | boolean b => exact .boolean b
  | number n => exact .number n
  | string s => exact .string s
  | array _ ih => exact .array (List.forall_mem_map.mpr ih)
  | object _ hmap hlast ih =>
      refine .object hmap fun member hmember => ?_
      obtain ⟨denoted, hdenoted, -, hvalue⟩ := ((hlast member.1 member.2).mp hmember).exists_mem
      exact hvalue ▸ ih denoted hdenoted

/-- A member as it is read and as it is. -/
def denotedMember (member : String × Json) : DenotedMember :=
  ⟨member.1, member.2.reading, member.2⟩

/-- In a map every member is the last one of its name. -/
theorem IsMap.mem_iff_hasLast {members : List (String × Json)} (h : IsMap members) {name : String}
    {value : Json} : (name, value) ∈ members ↔ HasLast (members.map denotedMember) name value := by
  constructor
  · intro hmem
    obtain ⟨front, back, rfl⟩ := List.append_of_mem hmem
    have hback := (List.pairwise_cons.mp (List.pairwise_append.mp h).2.1).1
    refine ⟨front.map denotedMember, denotedMember (name, value), back.map denotedMember,
      List.map_append, rfl, rfl, ?_⟩
    exact List.forall_mem_map.mpr fun later hlater => (hback later hlater).ne'
  · intro hlast
    obtain ⟨denoted, hdenoted, rfl, rfl⟩ := hlast.exists_mem
    obtain ⟨member, hmember, rfl⟩ := List.mem_map.mp hdenoted
    exact hmember

/-- The text of a sorted value is a document that has this value. -/
theorem IsSorted.denotes {value : Json} (h : value.IsSorted) : value.reading.Denotes value := by
  induction h with
  | null => exact .null
  | boolean b => exact .boolean b
  | number n => exact .number n
  | string s => exact .string s
  | @array items _ ih =>
      have hitems : ∀ item ∈ items.map fun item => (item.reading, item), item.1.Denotes item.2 :=
        List.forall_mem_map.mpr ih
      have harray := Reading.Denotes.array hitems
      have hvalues : items.map (Prod.snd ∘ fun item => (item.reading, item)) = items :=
        List.map_id items
      rw [List.map_map, List.map_map, hvalues] at harray
      rw [Json.reading, itemReadings_eq]
      exact harray
  | @object members hmap _ ih =>
      have hown : ∀ member ∈ members.map denotedMember, member.reading.Denotes member.value :=
        List.forall_mem_map.mpr ih
      have hobject := Reading.Denotes.object hown hmap fun _ _ => hmap.mem_iff_hasLast
      rw [List.map_map] at hobject
      rw [Json.reading, memberReadings_eq]
      exact hobject

/-! ## Nesting -/

mutual

/-- How deeply arrays and objects are nested in a value. -/
def depth : Json → Nat
  | array items => itemsDepth items + 1
  | object members => membersDepth members + 1
  | null | boolean _ | number _ | string _ => 0

/-- How deeply they are nested in the items of an array. -/
def itemsDepth : List Json → Nat
  | [] => 0
  | item :: items => max item.depth (itemsDepth items)

/-- How deeply they are nested in the members of an object. -/
def membersDepth : List (String × Json) → Nat
  | [] => 0
  | (_, value) :: members => max value.depth (membersDepth members)

end

/-- The value is found again if it is nested no deeper than the limit. -/
def IsFoundWithin (value : Json) : Prop :=
  ∀ limit, value.reading.value? limit = if value.depth ≤ limit then some value else none

/-- The items are found again if they are nested no deeper than the limit. -/
theorem itemValues?_readings {items : List Json} (h : ∀ item ∈ items, item.IsFoundWithin)
    (limit : Nat) :
    itemValues? limit (itemReadings items) =
      if itemsDepth items ≤ limit then some items else none := by
  induction items with
  | nil => rfl
  | cons item items ih =>
      obtain ⟨hitem, hitems⟩ := List.forall_mem_cons.mp h
      rw [itemReadings, itemValues?, hitem limit, ih hitems, itemsDepth]
      by_cases hhead : item.depth ≤ limit <;> by_cases htail : itemsDepth items ≤ limit <;>
        simp [hhead, htail]

/-- The members of a map are found again if they are nested no deeper than the limit. -/
theorem memberValues?_readings {members map : List (String × Json)} (hmap : IsMap (map ++ members))
    (h : ∀ member ∈ members, member.2.IsFoundWithin) (limit : Nat) :
    memberValues? limit (memberReadings members) map =
      if membersDepth members ≤ limit then some (map ++ members) else none := by
  induction members generalizing map with
  | nil =>
      rw [List.append_nil]
      rfl
  | cons member members ih =>
      obtain ⟨name, value⟩ := member
      obtain ⟨hvalue, hmembers⟩ := List.forall_mem_cons.mp h
      have hlast : ∀ before ∈ map, before.1 < name := fun before hbefore =>
        (List.pairwise_append.mp hmap).2.2 before hbefore _ List.mem_cons_self
      rw [← List.singleton_append, ← List.append_assoc] at hmap
      rw [memberReadings, memberValues?, hvalue limit, membersDepth]
      by_cases hhead : value.depth ≤ limit
      · simp only [hhead, if_true, Option.bind_eq_bind, Option.bind_some,
          insertMember_of_forall_lt hlast, ih hmap hmembers, max_le_iff, true_and,
          List.append_assoc, List.singleton_append]
      · simp [hhead]

/-- What is found one level further down. -/
theorem ite_one_less {α : Type} {f : α → Json} {x : α} {nested limit : Nat} :
    (if limit = 0 then none else (if nested ≤ limit - 1 then some x else none).map f) =
      if nested + 1 ≤ limit then some (f x) else none := by
  cases limit with
  | zero => rw [if_pos rfl, if_neg (Nat.not_succ_le_zero nested)]
  | succ limit =>
      rw [if_neg (Nat.succ_ne_zero limit), Nat.add_sub_cancel]
      simp only [Nat.add_le_add_iff_right]
      split <;> rfl

/-- A sorted and plain value is found again in its text, if it is nested no deeper than the limit.
-/
theorem IsSorted.isFoundWithin {value : Json} (h : value.IsSorted) (hplain : value.IsPlain) :
    value.IsFoundWithin := by
  induction h with
  | null | boolean | string => exact fun _ => rfl
  | number n =>
      cases n with
      | integer n => exact fun _ => rfl
      | decimal d => exact hplain.elim
  | @array items _ ih =>
      have hitems := itemValues?_readings fun item hitem =>
        ih item hitem (ArePlain.forall hplain item hitem)
      intro limit
      rw [Json.reading, Reading.value?, depth, hitems (limit - 1)]
      exact ite_one_less
  | @object members hmap _ ih =>
      have hmembers := memberValues?_readings (List.nil_append members ▸ hmap) fun member hmember =>
        ih member hmember (MembersPlain.forall hplain member hmember)
      intro limit
      rw [Json.reading, Reading.value?, depth, hmembers (limit - 1), List.nil_append]
      exact ite_one_less

/-- It is read from its text, if it is nested no deeper than may be. -/
theorem ofText?_render {value : Json} (h : value.IsSorted) (hplain : value.IsPlain) :
    ofText? value.render = if value.depth ≤ maxDepth then some value else none := by
  rw [ofText?, ofText_render hplain]
  exact h.isFoundWithin hplain maxDepth

end MalwareScan.Json
