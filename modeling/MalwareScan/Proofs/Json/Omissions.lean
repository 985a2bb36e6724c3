import MalwareScan.Proofs.Json.Codecs
import Mathlib.Logic.Relation

/-!
# Members that may be left out

A field with a value for its absence need not be named: the document without the member is read as
the one in which the member states this value, whatever else they say. If something else in them
is wrong, the same fault is found in both.

While the members are read, the two documents differ in one slot: it is filled with the value in
one of them and open in the other. This is `Fields.Filled`, and it is kept by all members with
other names.
-/

namespace MalwareScan.Json

variable {σ α β τ ρ : Type}

namespace Fields

/-- The field is the first one of its name. -/
inductive Has (field : Field σ α) : {τ ρ : Type} → Fields σ τ ρ → Prop where
  | head {τ ρ : Type} {rest : Fields σ τ ρ} : Has field (.cons field rest)
  | tail {β τ ρ : Type} {other : Field σ β} {rest : Fields σ τ ρ} (hname : other.name ≠ field.name)
      (h : rest.Has field) : Has field (.cons other rest)

/-- Two ways to know the same, except that the value of the field is known in the second one only,
where it is `x`. -/
inductive Filled (field : Field σ α) (x : α) : {τ ρ : Type} → Fields σ τ ρ → ρ → ρ → Prop where
  | here {τ ρ : Type} {rest : Fields σ τ ρ} {slots : ρ} :
      Filled field x (.cons field rest) (none, slots) (some x, slots)
  | there {β τ ρ : Type} {other : Field σ β} {rest : Fields σ τ ρ} {slot : Option β}
      {slots filled : ρ}
      (hname : other.name ≠ field.name) (h : rest.Filled field x slots filled) :
      Filled field x (.cons other rest) (slot, slots) (slot, filled)

/-- The same fault twice, or two ways to know the same except for the value of the field. -/
inductive FilledOrFaulty (field : Field σ α) (x : α) (fields : Fields σ τ ρ) :
    Except Fault ρ → Except Fault ρ → Prop where
  | filled {slots filled : ρ} (h : fields.Filled field x slots filled) :
      FilledOrFaulty field x fields (.ok slots) (.ok filled)
  | faulty (fault : Fault) : FilledOrFaulty field x fields (.error fault) (.error fault)

variable {field : Field σ α} {x : α} {fields : Fields σ τ ρ} {slots filled : ρ}

/-- The fault is the same, or else what is known. -/
theorem FilledOrFaulty.eq_error_or_eq_ok {opened closed : Except Fault ρ}
    (h : FilledOrFaulty field x fields opened closed) :
    (∃ fault, opened = .error fault ∧ closed = .error fault) ∨
    ∃ slots filled, opened = .ok slots ∧ closed = .ok filled ∧
      fields.Filled field x slots filled := by
  cases h with
  | filled hfilled => exact .inr ⟨_, _, rfl, rfl, hfilled⟩
  | faulty fault => exact .inl ⟨fault, rfl, rfl⟩

/-- What keeps one slot filled keeps it filled among more slots. -/
theorem FilledOrFaulty.map {γ υ : Type} {others : Fields σ γ υ} {opened closed : Except Fault ρ}
    {f g : ρ → υ} (h : FilledOrFaulty field x fields opened closed)
    (hmap : ∀ {slots filled}, fields.Filled field x slots filled →
      others.Filled field x (f slots) (g filled)) :
    FilledOrFaulty field x others (opened.map f) (closed.map g) := by
  cases h with
  | filled hfilled => exact .filled (hmap hfilled)
  | faulty fault => exact .faulty fault

/-- What is done next keeps the slot filled if it does so for everything that may be known. -/
theorem FilledOrFaulty.bind {opened closed : Except Fault ρ} {f g : ρ → Except Fault ρ}
    (h : FilledOrFaulty field x fields opened closed)
    (hbind : ∀ {slots filled}, fields.Filled field x slots filled →
      FilledOrFaulty field x fields (f slots) (g filled)) :
    FilledOrFaulty field x fields (opened.bind f) (closed.bind g) := by
  cases h with
  | filled hfilled => exact hbind hfilled
  | faulty fault => exact .faulty fault

/-- While nothing is known, the value of any field is not. -/
theorem Has.exists_filled (h : fields.Has field) (x : α) :
    ∃ filled, fields.Filled field x fields.empty filled := by
  induction h with
  | head => exact ⟨_, .here⟩
  | tail hname _ ih =>
      obtain ⟨filled, hfilled⟩ := ih
      exact ⟨_, .there hname hfilled⟩

/-- A field's value is read by its codec. -/
theorem Has.put_congr (h : fields.Has field) {value other : Reading}
    (heq : field.codec.decode value = field.codec.decode other) (slots : ρ) :
    fields.put field.name value slots = fields.put field.name other slots := by
  induction h with
  | head =>
      obtain ⟨_ | y, slots⟩ := slots
      · rw [put, put, if_pos rfl, if_pos rfl, heq]
      · rw [put, put, if_pos rfl, if_pos rfl]
  | tail hname _ ih =>
      obtain ⟨slot, slots⟩ := slots
      rw [put_of_ne hname.symm, put_of_ne hname.symm, ih]

/-- The member that states the value fills the slot. -/
theorem Filled.put_eq (h : fields.Filled field x slots filled) {value : Reading}
    (hvalue : field.codec.decode value = .ok x) :
    fields.put field.name value slots = .ok filled := by
  induction h with
  | here =>
      rw [put, if_pos rfl]
      simp only [hvalue]
      rfl
  | there hname _ ih =>
      rw [put_of_ne hname.symm, ih]
      rfl

/-- A member with another name leaves the slot alone. -/
theorem Filled.put (h : fields.Filled field x slots filled) {key : String} (hkey : key ≠ field.name)
    (value : Reading) :
    FilledOrFaulty field x fields (fields.put key value slots) (fields.put key value filled) := by
  induction h with
  | @here _ _ rest slots =>
      rw [put_of_ne hkey, put_of_ne hkey]
      cases rest.put key value slots with
      | error fault => exact .faulty fault
      | ok slots => exact .filled .here
  | @there _ _ _ other rest slot slots filled hname hrest ih =>
      by_cases hother : key = other.name
      · subst hother
        cases slot with
        | some y =>
            rw [Fields.put, Fields.put, if_pos rfl, if_pos rfl]
            exact .faulty _
        | none =>
            rw [Fields.put, Fields.put, if_pos rfl, if_pos rfl]
            cases other.codec.decode value with
            | error fault => exact .faulty fault
            | ok y => exact .filled (.there hname hrest)
      · rw [put_of_ne hother, put_of_ne hother]
        exact ih.map fun hfilled => .there hname hfilled

/-- Members with other names leave the slot alone. -/
theorem Filled.putAll (h : fields.Filled field x slots filled)
    {members : List (Except Breach String × Reading)}
    (hmembers : ∀ member ∈ members, member.1 ≠ .ok field.name) :
    FilledOrFaulty field x fields (fields.putAll members slots) (fields.putAll members filled) := by
  induction members generalizing slots filled with
  | nil => exact .filled h
  | cons member members ih =>
      obtain ⟨hmember, hrest⟩ := List.forall_mem_cons.mp hmembers
      obtain ⟨key, value⟩ := member
      cases key with
      | error breach => exact .faulty _
      | ok key =>
          rw [putAll_ok_cons, putAll_ok_cons]
          exact (h.put (fun heq => hmember (congrArg Except.ok heq)) value).bind
            fun hfilled => ih hfilled hrest

/-- The values of all fields are the same if this is the one that stands for the field's absence. -/
theorem Filled.complete_eq (h : fields.Filled field x slots filled)
    (habsent : field.absent.inObject field.name = .ok x) :
    fields.complete slots = fields.complete filled := by
  induction h with
  | here => rw [complete, complete, habsent]
  | @there _ _ _ other rest slot slots filled _ _ ih =>
      cases slot with
      | none => rw [complete, complete, ih]
      | some y => rw [complete, complete, ih]

/-- One more member that states a value for the field fills its slot, and does nothing else. -/
theorem Has.putAll_member (h : fields.Has field) {value : Reading}
    (hvalue : field.codec.decode value = .ok x)
    {before after : List (Except Breach String × Reading)}
    (hothers : ∀ member ∈ before ++ after, member.1 ≠ .ok field.name) :
    FilledOrFaulty field x fields (fields.putAll (before ++ after) fields.empty)
      (fields.putAll (before ++ (.ok field.name, value) :: after) fields.empty) := by
  obtain ⟨hbefore, hafter⟩ := List.forall_mem_append.mp hothers
  obtain ⟨filled, hfilled⟩ := h.exists_filled x
  rw [putAll_append, putAll_append]
  rcases (hfilled.putAll hbefore).eq_error_or_eq_ok with
    ⟨fault, hopened, -⟩ | ⟨slots, filled, hopened, -, hslots⟩
  · rw [hopened]
    exact .faulty fault
  · rw [hopened]
    show FilledOrFaulty field x fields (fields.putAll after slots)
      (fields.putAll ((.ok field.name, value) :: after) slots)
    rw [putAll_ok_cons, hslots.put_eq hvalue]
    exact hslots.putAll hafter

end Fields

/-- The second document is the first one without a member that states the value for a field's
absence. The member may stand in an object at any level. -/
inductive Codec.Omits : {α : Type} → Codec α → Reading → Reading → Prop where
  | member {σ α τ ρ : Type} {name : String} {fields : Fields σ τ ρ} {make : τ → σ}
      {field : Field σ α}
      {x : α} {value : Reading} {before after : List (Except Breach String × Reading)}
      {cut : Option Cut} (hfield : fields.Has field)
      (habsent : field.absent.inObject field.name = .ok x)
      (hvalue : field.codec.decode value = .ok x)
      (hothers : ∀ member ∈ before ++ after, member.1 ≠ .ok field.name) :
      Omits (.record name fields make) (.object (before ++ (.ok field.name, value) :: after) cut)
        (.object (before ++ after) cut)
  | within {σ α τ ρ : Type} {name : String} {fields : Fields σ τ ρ} {make : τ → σ}
      {field : Field σ α}
      {full short : Reading} {before after : List (Except Breach String × Reading)}
      {cut : Option Cut}
      (hfield : fields.Has field) (h : Omits field.codec full short) :
      Omits (.record name fields make) (.object (before ++ (.ok field.name, full) :: after) cut)
        (.object (before ++ (.ok field.name, short) :: after) cut)
  | item {α : Type} {codec : Codec α} {full short : Reading} {before after : List Reading}
      {cut : Option Cut} (h : Omits codec full short) :
      Omits (.list codec) (.array (before ++ full :: after) cut)
        (.array (before ++ short :: after) cut)
  | present {α : Type} {codec : Codec α} {full short : Reading} (h : Omits codec full short) :
      Omits (.option codec) full short

namespace Codec

variable {codec : Codec α} {full short : Reading}

/-- No member can be left out of `null`. -/
theorem Omits.ne_null (h : codec.Omits full short) : full ≠ .null ∧ short ≠ .null := by
  induction h with
  | present _ ih => exact ih
  | _ => exact ⟨nofun, nofun⟩

/-- Without the member the document is read as before. -/
theorem Omits.decode_eq (h : codec.Omits full short) : codec.decode full = codec.decode short := by
  induction h with
  | @member σ α τ ρ name fields make field x value before after cut hfield habsent hvalue hothers =>
      show (do
        let slots ← fields.putAll (before ++ (.ok field.name, value) :: after) fields.empty
        finished cut
        let values ← fields.complete slots
        Except.ok (make values)) = (do
        let slots ← fields.putAll (before ++ after) fields.empty
        finished cut
        let values ← fields.complete slots
        Except.ok (make values))
      rcases (hfield.putAll_member hvalue hothers).eq_error_or_eq_ok with
        ⟨fault, hshort, hfull⟩ | ⟨slots, filled, hshort, hfull, hfilled⟩
      · rw [hshort, hfull]
      · rw [hshort, hfull]
        show (do
          finished cut
          let values ← fields.complete filled
          Except.ok (make values)) = _
        rw [← hfilled.complete_eq habsent]
        rfl
  | @within σ α τ ρ name fields make field full short before after cut hfield _ ih =>
      have hmembers : fields.putAll (before ++ (Except.ok field.name, full) :: after) fields.empty =
          fields.putAll (before ++ (Except.ok field.name, short) :: after) fields.empty := by
        rw [Fields.putAll_append, Fields.putAll_append]
        congr 1
        funext slots
        rw [Fields.putAll_ok_cons, Fields.putAll_ok_cons, hfield.put_congr ih]
      show (do
        let slots ← fields.putAll (before ++ (Except.ok field.name, full) :: after) fields.empty
        finished cut
        let values ← fields.complete slots
        Except.ok (make values)) = _
      rw [hmembers]
      rfl
  | @item α codec full short before after cut _ ih =>
      show (do
        let values ← (before ++ full :: after).mapM codec.decode
        finished cut
        Except.ok values) = _
      rw [List.mapM_append, List.mapM_cons, ih, ← List.mapM_cons, ← List.mapM_append]
      rfl
  | present h ih => rw [decode_option h.ne_null.1, decode_option h.ne_null.2, ih]

/-- Without any number of such members a document is read as before. -/
theorem decode_eq_of_omits (h : Relation.ReflTransGen codec.Omits full short) :
    codec.decode full = codec.decode short := by
  induction h with
  | refl => rfl
  | tail _ hstep ih => exact ih.trans hstep.decode_eq

/-- Without any number of such members a text is read as before. -/
theorem read_eq_of_omits {fullText shortText : String}
    (h : Relation.ReflTransGen codec.Omits full short) (hfull : Spells full fullText.toList)
    (hshort : Spells short shortText.toList) : codec.read fullText = codec.read shortText := by
  rw [Codec.read, Codec.read, hfull.ofText, hshort.ofText, Codec.ofDocument, Codec.ofDocument,
    decode_eq_of_omits h]

end Codec

end MalwareScan.Json
