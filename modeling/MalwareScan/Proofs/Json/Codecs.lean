import MalwareScan.Json.Codec
import MalwareScan.Proofs.Json.Statements

/-!
# Codecs read back what they write

A codec is faithful if it decodes every value from whatever states what it encodes, and encodes it
as a plain value, so that nothing is lost on the way through the text. The basic codecs are
faithful, and so are the options, lists and records of faithful codecs: an option if no value is
written as `null`, and a record if no two of its fields have the same name.
-/

namespace MalwareScan.Json

variable {α σ τ ρ : Type}

/-- Every value is encoded as a plain one, and decoded from whatever states this one. -/
structure Codec.IsFaithful (codec : Codec α) : Prop where
  plain : ∀ x, (codec.encode x).IsPlain
  decode_stated : ∀ x reading, (codec.encode x).StatedBy reading → codec.decode reading = .ok x

/-- A faithful codec reads every value from all texts that state it. -/
theorem Codec.IsFaithful.read_stated {codec : Codec α} (h : codec.IsFaithful) {x : α}
    {reading : Reading} {text : String} (hstated : (codec.encode x).StatedBy reading)
    (htext : Spells reading text.toList) : codec.read text = .ok x := by
  rw [Codec.read, htext.ofText, Codec.ofDocument, h.decode_stated x reading hstated]
  rfl

/-- A faithful codec reads every value from the text that it writes for it. -/
theorem Codec.IsFaithful.read_write {codec : Codec α} (h : codec.IsFaithful) (x : α) :
    codec.read (codec.write x) = .ok x :=
  h.read_stated (statedBy_reading _) (h.plain x).spells_render

namespace Codec

/-! ## Single values -/

/-- Texts are read back. -/
theorem isFaithful_text : text.IsFaithful where
  plain _ := trivial
  decode_stated
    | _, _, .string _ => rfl

/-- Truth values are read back. -/
theorem isFaithful_boolean : boolean.IsFaithful where
  plain _ := trivial
  decode_stated
    | _, _, .boolean _ => rfl

/-- The integers of a range are read back, if 64 bits hold them. -/
theorem isFaithful_integer {name : String} {low high : Int} {ofInt : Int → α} {toInt : α → Int}
    (hlow : IsWord low) (hhigh : IsWord high) (hrange : ∀ x, low ≤ toInt x ∧ toInt x ≤ high)
    (hback : ∀ x, ofInt (toInt x) = x) : (integer name low high ofInt toInt).IsFaithful where
  plain x := ⟨Int.le_trans hlow.1 (hrange x).1, Int.le_trans (hrange x).2 hhigh.2⟩
  decode_stated
    | x, _, .number _ => by
      show (if low ≤ toInt x ∧ toInt x ≤ high then Except.ok (ofInt (toInt x)) else _) = _
      rw [if_pos (hrange x), hback]

/-- Signed words of 32 bits are read back. -/
theorem isFaithful_int32 : int32.IsFaithful :=
  isFaithful_integer (by decide) (by decide) (fun x => ⟨x.le_toInt, x.toInt_le⟩) Int32.ofInt_toInt

/-- Signed words of 64 bits are read back. -/
theorem isFaithful_int64 : int64.IsFaithful :=
  isFaithful_integer (by decide) (by decide) (fun x => ⟨x.le_toInt, x.toInt_le⟩) Int64.ofInt_toInt

/-- Words of 32 bits are read back. -/
theorem isFaithful_uint32 : uint32.IsFaithful := by
  refine isFaithful_integer (by decide) (by decide) (fun x => ?_) fun x => UInt32.ofNat_toNat
  have hlt : x.toNat < 4294967296 := x.toNat_lt
  omega

/-- Words of 64 bits are read back. -/
theorem isFaithful_uint64 : uint64.IsFaithful := by
  refine isFaithful_integer (by decide) (by decide) (fun x => ?_) fun x => UInt64.ofNat_toNat
  have hlt : x.toNat < 18446744073709551616 := x.toNat_lt
  omega

/-! ## Options and lists -/

/-- What is not `null` is read as a value that is there. -/
theorem decode_option {codec : Codec α} {reading : Reading} (h : reading ≠ .null) :
    (option codec).decode reading = (codec.decode reading).map some := by
  cases reading with
  | null => exact absurd rfl h
  | _ => rfl

/-- What may be absent is read back, if `null` stands for absence only. -/
theorem isFaithful_option {codec : Codec α} (h : codec.IsFaithful)
    (hnull : ∀ x, codec.encode x ≠ .null) : (option codec).IsFaithful where
  plain
    | none => trivial
    | some x => h.plain x
  decode_stated
    | none, _, .null => rfl
    | some x, reading, hstated => by
      rw [decode_option (hstated.ne_null (hnull x)), h.decode_stated x reading hstated]
      rfl

/-- A list is read back item by item. -/
theorem mapM_decode {codec : Codec α} (h : codec.IsFaithful) {values : List α}
    {readings : List Reading} (hstated : List.Forall₂ StatedBy (values.map codec.encode) readings) :
    readings.mapM codec.decode = .ok values := by
  induction values generalizing readings with
  | nil =>
      cases hstated
      rfl
  | cons x values ih =>
      cases hstated with
      | cons hitem hitems =>
          rw [List.mapM_cons, h.decode_stated _ _ hitem, ih hitems]
          rfl

/-- Lists are read back. -/
theorem isFaithful_list {codec : Codec α} (h : codec.IsFaithful) : (list codec).IsFaithful where
  plain values := arePlain_of_forall fun item hitem => by
    obtain ⟨x, -, rfl⟩ := List.mem_map.mp hitem
    exact h.plain x
  decode_stated values reading hstated := by
    obtain ⟨readings, rfl, hitems⟩ := hstated.of_array
    show (do
      let values ← readings.mapM codec.decode
      finished none
      Except.ok values) = _
    rw [mapM_decode h hitems]
    rfl

end Codec

/-! ## Records -/

namespace Fields

/-- The names of the fields. -/
def names : {τ ρ : Type} → Fields σ τ ρ → List String
  | _, _, .nil => []
  | _, _, .cons field rest => field.name :: rest.names

/-- Each field has a faithful codec and a name of its own. -/
inductive AreFaithful : {τ ρ : Type} → Fields σ τ ρ → Prop where
  | nil : AreFaithful .nil
  | cons {α τ ρ : Type} {field : Field σ α} {rest : Fields σ τ ρ} (hfield : field.codec.IsFaithful)
      (hname : field.name ∉ rest.names) (hrest : rest.AreFaithful) : AreFaithful (.cons field rest)

/-- What is known after all members of a record. -/
def known : {τ ρ : Type} → Fields σ τ ρ → σ → ρ
  | _, _, .nil, _ => ()
  | _, _, .cons field rest, x => (some (field.get x), rest.known x)

/-- The members of a record are named by its fields. -/
theorem names_members (fields : Fields σ τ ρ) (x : σ) :
    (fields.members x).map Prod.fst = fields.names := by
  induction fields with
  | nil => rfl
  | cons field rest ih => rw [members, List.map_cons, ih, names]

/-- The members of a record are plain. -/
theorem AreFaithful.membersPlain {fields : Fields σ τ ρ} (h : fields.AreFaithful) (x : σ) :
    MembersPlain (fields.members x) := by
  induction h with
  | nil => trivial
  | cons hfield _ _ ih => exact ⟨hfield.plain _, ih⟩

/-- Members that name no field are skipped, if nothing is wrong with them. -/
theorem putAll_nil {members : List (Except Breach String × Reading)}
    (h : ∀ member ∈ members, (∃ name, member.1 = .ok name) ∧ member.2.cut? = none) :
    (Fields.nil : Fields σ Unit Unit).putAll members () = .ok () := by
  induction members with
  | nil => rfl
  | cons member members ih =>
      obtain ⟨key, value⟩ := member
      obtain ⟨⟨⟨name, rfl⟩, hvalue⟩, hrest⟩ := List.forall_mem_cons.mp h
      have hput : (Fields.nil : Fields σ Unit Unit).put name value () = .ok () := by
        rw [put]
        simp only [hvalue]
      rw [putAll, hput]
      exact ih hrest

/-- A member with another name is for the other fields. -/
theorem put_of_ne {field : Field σ α} {rest : Fields σ τ ρ} {key : String} (h : key ≠ field.name)
    (value : Reading) (slot : Option α) (slots : ρ) :
    (Fields.cons field rest).put key value (slot, slots) =
      (rest.put key value slots).map fun slots => (slot, slots) :=
  if_neg h

/-- A field is not affected by members that have other names. -/
theorem putAll_cons {field : Field σ α} {rest : Fields σ τ ρ}
    {members : List (Except Breach String × Reading)}
    (h : ∀ member ∈ members, member.1 ≠ .ok field.name) (slot : Option α) (slots : ρ) :
    (Fields.cons field rest).putAll members (slot, slots) =
      (rest.putAll members slots).map fun slots => (slot, slots) := by
  induction members generalizing slots with
  | nil => rfl
  | cons member members ih =>
      obtain ⟨hmember, hrest⟩ := List.forall_mem_cons.mp h
      obtain ⟨key, value⟩ := member
      cases key with
      | error breach => rfl
      | ok key =>
          rw [putAll, putAll, put_of_ne fun heq => hmember (congrArg Except.ok heq)]
          cases rest.put key value slots with
          | error fault => rfl
          | ok slots => exact ih hrest slots

/-- A member is read, and then the others. -/
theorem putAll_ok_cons (fields : Fields σ τ ρ) (key : String) (value : Reading)
    (members : List (Except Breach String × Reading)) (slots : ρ) :
    fields.putAll ((.ok key, value) :: members) slots =
      (fields.put key value slots).bind (fields.putAll members) := by
  rw [putAll]
  cases fields.put key value slots <;> rfl

/-- Members are read one after the other. -/
theorem putAll_append (fields : Fields σ τ ρ) (front back : List (Except Breach String × Reading))
    (slots : ρ) :
    fields.putAll (front ++ back) slots =
      (fields.putAll front slots).bind (fields.putAll back) := by
  induction front generalizing slots with
  | nil => rfl
  | cons member front ih =>
      obtain ⟨key, value⟩ := member
      cases key with
      | error breach => rfl
      | ok key =>
          rw [List.cons_append, putAll_ok_cons, putAll_ok_cons]
          cases fields.put key value slots with
          | error fault => rfl
          | ok slots => exact ih slots

/-- The one member that names a field makes its value known, wherever it stands. -/
theorem putAll_named {field : Field σ α} {rest : Fields σ τ ρ}
    {before after : List (Except Breach String × Reading)} {reading : Reading} {x : α}
    (hothers : ∀ member ∈ before ++ after, member.1 ≠ .ok field.name)
    (hx : field.codec.decode reading = .ok x) (slots : ρ) :
    (Fields.cons field rest).putAll (before ++ (.ok field.name, reading) :: after) (none, slots) =
      (rest.putAll (before ++ after) slots).map fun slots => (some x, slots) := by
  obtain ⟨hbefore, hafter⟩ := List.forall_mem_append.mp hothers
  rw [putAll_append, putAll_append, putAll_cons hbefore]
  cases rest.putAll before slots with
  | error fault => rfl
  | ok slots =>
      have hput : (Fields.cons field rest).put field.name reading (none, slots) =
          .ok (some x, slots) := by
        rw [put, if_pos rfl]
        simp only [hx]
        rfl
      show (Fields.cons field rest).putAll ((.ok field.name, reading) :: after) (none, slots) = _
      rw [putAll, hput]
      exact putAll_cons hafter (some x) slots

/-- After members that state a record the value of each field is known. -/
theorem AreFaithful.putAll_stated {fields : Fields σ τ ρ} (h : fields.AreFaithful) (x : σ)
    {own : List StatedMember} {others : List (String × Reading)}
    {members : List (Except Breach String × Reading)}
    (hrecord : own.map (fun member => (member.name, member.value)) = fields.members x)
    (hown : ∀ member ∈ own, member.value.StatedBy member.reading)
    (hnames : ∀ other ∈ others, other.1 ∉ own.map StatedMember.name)
    (hothers : ∀ other ∈ others, other.2.cut? = none)
    (hmembers : members.Perm (own.map (fun member => (.ok member.name, member.reading)) ++
      others.map fun other => (.ok other.1, other.2))) :
    fields.putAll members fields.empty = .ok (fields.known x) := by
  induction h generalizing own members with
  | nil =>
      obtain rfl := List.map_eq_nil_iff.mp hrecord
      refine putAll_nil fun member hmember => ?_
      obtain ⟨other, hother, rfl⟩ := List.mem_map.mp (hmembers.mem_iff.mp hmember)
      exact ⟨⟨other.1, rfl⟩, hothers other hother⟩
  | @cons α τ ρ field rest hfield hname hrest ih =>
      obtain ⟨⟨name, value, reading⟩, more, rfl, hmember, hmore⟩ := List.map_eq_cons_iff.mp hrecord
      obtain ⟨hfirst, hstated⟩ := List.forall_mem_cons.mp hown
      obtain ⟨rfl, rfl⟩ := Prod.mk.injEq .. ▸ hmember
      obtain ⟨before, after, rfl⟩ :=
        List.append_of_mem (hmembers.mem_iff.mpr (List.mem_append_left _ List.mem_cons_self))
      have hperm := (List.perm_middle.symm.trans hmembers).cons_inv
      have hnamed : more.map StatedMember.name = rest.names := by
        rw [← names_members rest x, ← hmore, List.map_map]
        rfl
      have hdistinct : ∀ member ∈ before ++ after, member.1 ≠ .ok field.name := by
        intro member hmember heq
        rcases List.mem_append.mp (hperm.mem_iff.mp hmember) with hmem | hmem
        · obtain ⟨other, hother, rfl⟩ := List.mem_map.mp hmem
          have hsame : other.name = field.name := Except.ok.inj heq
          exact hname (hnamed ▸ hsame ▸ List.mem_map_of_mem hother)
        · obtain ⟨other, hother, rfl⟩ := List.mem_map.mp hmem
          have hsame : other.1 = field.name := Except.ok.inj heq
          exact hnames other hother (hsame ▸ List.mem_cons_self)
      have hknown := ih hmore hstated
        (fun other hother hmem => hnames other hother (List.mem_cons_of_mem _ hmem)) hperm
      rw [empty, putAll_named hdistinct (hfield.decode_stated _ _ hfirst), hknown]
      rfl

/-- A record is complete once all its fields are known. -/
theorem complete_known (fields : Fields σ τ ρ) (x : σ) :
    fields.complete (fields.known x) = .ok (fields.values x) := by
  induction fields with
  | nil => rfl
  | cons field rest ih =>
      rw [known, complete, ih]
      rfl

end Fields

/-- No record is written as `null`. -/
theorem Codec.encode_record_ne_null {name : String} {fields : Fields σ τ ρ} {make : τ → σ} (x : σ) :
    (Codec.record name fields make).encode x ≠ .null :=
  nofun

/-- Records are read back. -/
theorem Codec.isFaithful_record {name : String} {fields : Fields σ τ ρ} {make : τ → σ}
    (h : fields.AreFaithful) (hmake : ∀ x, make (fields.values x) = x) :
    (Codec.record name fields make).IsFaithful where
  plain x := h.membersPlain x
  decode_stated x reading hstated := by
    obtain ⟨own, others, members, hrecord, rfl, hown, hnames, hothers, hmembers⟩ :=
      hstated.of_object
    show (do
      let slots ← fields.putAll members fields.empty
      finished none
      let values ← fields.complete slots
      Except.ok (make values)) = _
    rw [h.putAll_stated x hrecord hown hnames hothers hmembers]
    show (do
      let values ← fields.complete (fields.known x)
      Except.ok (make values)) = _
    rw [fields.complete_known]
    show Except.ok (make (fields.values x)) = _
    rw [hmake]

end MalwareScan.Json
