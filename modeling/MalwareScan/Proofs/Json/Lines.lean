import MalwareScan.Proofs.Json.Texts

/-!
# Written values stand on one line

Between the tokens of a written value there is no white space, and every control character of a
string is escaped. So the text of a plain value has no control character at all, and with that no
line break.
-/

namespace MalwareScan.Json

/-- There is no control character among the characters. -/
def NoControl (cs : List Char) : Prop :=
  ∀ c ∈ cs, ¬ c.toNat < 32

instance (cs : List Char) : Decidable (NoControl cs) :=
  List.decidableBAll (fun c : Char => ¬ c.toNat < 32) cs

variable {front back : List Char}

/-- Control characters are in neither part of a text. -/
theorem noControl_append : NoControl (front ++ back) ↔ NoControl front ∧ NoControl back :=
  List.forall_mem_append

/-- Control characters are neither at the head of a text nor behind it. -/
theorem noControl_cons {c : Char} : NoControl (c :: back) ↔ ¬ c.toNat < 32 ∧ NoControl back :=
  List.forall_mem_cons

/-- A character is written without control characters. -/
theorem noControl_escape (c : Char) : NoControl (escape c) := by
  have hcontrol : ∀ n < 32, NoControl [Nat.digitChar (n / 16), Nat.digitChar (n % 16)] := by decide
  rw [escape]
  repeat' split
  any_goals decide
  · next h => exact noControl_append.mpr ⟨by decide, hcontrol c.toNat h⟩
  · next h => exact noControl_cons.mpr ⟨h, List.forall_mem_nil _⟩

/-- A string is written without control characters. -/
theorem noControl_quoted (s : String) : NoControl (quoted s) := by
  refine noControl_cons.mpr ⟨by decide, noControl_append.mpr ⟨fun c hc => ?_, by decide⟩⟩
  obtain ⟨d, -, hd⟩ := List.mem_flatMap.mp hc
  exact noControl_escape d c hd

/-- An integer is written without control characters. -/
theorem noControl_intChars (n : Int) : NoControl (intChars n) := by
  have hcontrol : ∀ n < 32, (Char.ofNat n).isDigit = false := by decide
  have hdigits : ∀ n : Nat, NoControl (natChars n) := fun n c hc hlt => by
    have hdigit := hcontrol c.toNat hlt
    rw [Char.ofNat_toNat, (areDigits_natChars n).2 c hc] at hdigit
    cases hdigit
  rw [intChars]
  split
  · exact noControl_cons.mpr ⟨by decide, hdigits _⟩
  · exact hdigits _

mutual

/-- The text of a plain value has no control characters. -/
theorem IsPlain.noControl {value : Json} (h : value.IsPlain) : NoControl value.chars := by
  match value with
  | .null => decide
  | .boolean true => decide
  | .boolean false => decide
  | .number (.integer n) => exact noControl_intChars n
  | .string s => exact noControl_quoted s
  | .array [] => decide
  | .array (item :: items) =>
      simp only [chars, noControl_cons, noControl_append]
      exact ⟨by decide, IsPlain.noControl h.1, ArePlain.noControl h.2, by decide⟩
  | .object [] => decide
  | .object ((key, value) :: members) =>
      simp only [chars, noControl_cons, noControl_append]
      exact ⟨by decide, noControl_quoted key, by decide, IsPlain.noControl h.1,
        MembersPlain.noControl h.2, by decide⟩

/-- The texts of plain items have no control characters. -/
theorem ArePlain.noControl {items : List Json} (h : ArePlain items) :
    NoControl (moreItems items) := by
  match items with
  | [] => decide
  | item :: items =>
      simp only [moreItems, noControl_cons, noControl_append]
      exact ⟨by decide, IsPlain.noControl h.1, ArePlain.noControl h.2⟩

/-- The texts of plain members have no control characters. -/
theorem MembersPlain.noControl {members : List (String × Json)} (h : MembersPlain members) :
    NoControl (moreMembers members) := by
  match members with
  | [] => decide
  | (key, value) :: members =>
      simp only [moreMembers, noControl_cons, noControl_append]
      exact ⟨by decide, noControl_quoted key, by decide, IsPlain.noControl h.1,
        MembersPlain.noControl h.2⟩

end

end MalwareScan.Json
