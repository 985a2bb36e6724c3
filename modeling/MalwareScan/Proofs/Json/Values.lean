import MalwareScan.Proofs.Json.Numbers
import MalwareScan.Proofs.Json.Strings
import Mathlib.Data.List.DropRight

/-!
# Values are read

A value is read from every text that spells it, whatever follows the text, as long as it does not
go on with a number: arrays and objects item by item, with any white space between the tokens, and
however deeply they are nested. Only white space at the end of the text is left over.
-/

namespace MalwareScan.Json

/-! ## Steps of reading -/

variable {fuel : Nat} {rest : List Char}

/-- No white space stands before another sign. -/
theorem skipSpace_cons {c : Char} (h : isSpace c = false) (cs : List Char) :
    skipSpace (c :: cs) = c :: cs := by
  rw [skipSpace, List.dropWhile_cons_of_neg (by simp [h])]

/-- White space is skipped. -/
theorem skipSpace_append {spaces : List Char} (h : AreSpaces spaces) (cs : List Char) :
    skipSpace (spaces ++ cs) = skipSpace cs :=
  List.dropWhile_append_of_pos h

/-- White space is skipped up to a sign behind it. -/
theorem skipSpace_append_cons {spaces : List Char} {c : Char} (h : AreSpaces spaces)
    (hc : isSpace c = false) (cs : List Char) : skipSpace (spaces ++ c :: cs) = c :: cs := by
  rw [skipSpace_append h, skipSpace_cons hc]

/-- White space before a value is skipped. -/
theorem readValue_congr {cs ds : List Char} (h : skipSpace cs = skipSpace ds) :
    readValue fuel cs = readValue fuel ds := by
  cases fuel with
  | zero => rfl
  | succ fuel => rw [readValue, readValue, h]

/-- White space before a value may be skipped first. -/
theorem readValue_skipSpace (fuel : Nat) (cs : List Char) :
    readValue fuel (skipSpace cs) = readValue fuel cs :=
  readValue_congr (List.dropWhile_idempotent isSpace cs)

/-- A digit is no white space. -/
theorem isSpace_of_isDigit {c : Char} (h : c.isDigit = true) : isSpace c = false := by
  by_contra hspace
  simp only [isSpace, Bool.not_eq_false, Bool.or_eq_true, decide_eq_true_eq] at hspace
  rcases hspace with ((rfl | rfl) | rfl) | rfl <;> cases h

/-- A digit begins a number. -/
theorem readValue_digit {c : Char} (h : c.isDigit = true) (cs : List Char) :
    readValue (fuel + 1) (c :: cs) = readNumber false (c :: cs) := by
  rw [readValue, skipSpace_cons (isSpace_of_isDigit h)]
  split <;> simp_all

/-- A value begins with a sign that is not the end of an array. -/
theorem exists_head_of_readValue {cs : List Char} {value : Reading}
    (h : readValue fuel cs = (value, .ok rest)) :
    ∃ c tail, skipSpace cs = c :: tail ∧ c ≠ ']' := by
  cases fuel with
  | zero => cases h
  | succ fuel =>
      rw [readValue] at h
      cases hskip : skipSpace cs with
      | nil => rw [hskip] at h; cases h
      | cons c tail =>
          refine ⟨c, tail, rfl, ?_⟩
          rintro rfl
          rw [hskip] at h
          cases h

/-! ## Items -/

/-- The last item of an array is read. -/
theorem readItems_last {cs after : List Char} {item : Reading}
    (h : readValue fuel cs = (item, .ok after)) (hafter : skipSpace after = ']' :: rest) :
    readItems (fuel + 1) cs = ([item], .ok rest) := by
  rw [readItems, h]
  simp only [hafter]

/-- An item of an array is read that has another one behind it. -/
theorem readItems_more {cs after more : List Char} {item : Reading} {items : List Reading}
    (h : readValue fuel cs = (item, .ok after)) (hafter : skipSpace after = ',' :: more)
    (hmore : readItems fuel more = (items, .ok rest)) :
    readItems (fuel + 1) cs = (item :: items, .ok rest) := by
  rw [readItems, h]
  simp only [hafter, hmore]

/-- An array is read from its first item on. -/
theorem readValue_array {cs : List Char} {items : List Reading}
    (h : readItems fuel cs = (items, .ok rest)) :
    readValue (fuel + 1) ('[' :: cs) = (.array items none, .ok rest) := by
  have hskip : readItems fuel (skipSpace cs) = readItems fuel cs := by
    cases fuel with
    | zero => rfl
    | succ fuel =>
        rw [readItems, readItems, readValue_skipSpace]
  have hhead : ∃ c tail, skipSpace cs = c :: tail ∧ c ≠ ']' := by
    cases fuel with
    | zero => cases h
    | succ fuel =>
        rw [readItems] at h
        split at h
        · cases h
        · next hitem => exact exists_head_of_readValue hitem
  obtain ⟨c, tail, hcs, hc⟩ := hhead
  rw [hcs] at hskip
  rw [readValue, skipSpace_cons (by decide)]
  simp only [hcs]
  split
  · next hnil => cases hnil
  · next hclosed => exact absurd (List.head_eq_of_cons_eq hclosed) hc
  · rw [hskip, h]
    rfl

/-! ## Members -/

/-- The name of a member is read, and the colon behind it found. -/
theorem SpellsName.read {name : Except Breach String} {cs : List Char} (h : SpellsName name cs)
    (rest : List Char) :
    ∃ tail after, skipSpace (cs ++ ':' :: rest) = '"' :: tail ∧
      readString tail = .ok (name, after) ∧
      skipSpace after = ':' :: rest := by
  obtain @⟨before, cs, after, hbefore, hname, hafter⟩ := h
  obtain ⟨tail, rfl, hread⟩ := hname.read (after ++ ':' :: rest)
  refine ⟨tail ++ (after ++ ':' :: rest), after ++ ':' :: rest, ?_, hread,
    skipSpace_append_cons hafter (by decide) rest⟩
  rw [List.append_assoc, List.append_assoc, List.cons_append]
  exact skipSpace_append_cons hbefore (by decide) _

variable {name : Except Breach String} {key : List Char}

/-- The last member of an object is read. -/
theorem readMembers_last {cs after : List Char} {value : Reading} (hname : SpellsName name key)
    (h : readValue fuel cs = (value, .ok after)) (hafter : skipSpace after = '\x7d' :: rest) :
    readMembers (fuel + 1) (key ++ ':' :: cs) = ([(name, value)], .ok rest) := by
  obtain ⟨tail, colon, htail, hread, hcolon⟩ := hname.read cs
  rw [readMembers, htail]
  simp only [hread, hcolon, h, hafter]

/-- A member of an object is read that has another one behind it. -/
theorem readMembers_more {cs after more : List Char} {value : Reading}
    {members : List (Except Breach String × Reading)} (hname : SpellsName name key)
    (h : readValue fuel cs = (value, .ok after)) (hafter : skipSpace after = ',' :: more)
    (hmore : readMembers fuel more = (members, .ok rest)) :
    readMembers (fuel + 1) (key ++ ':' :: cs) = ((name, value) :: members, .ok rest) := by
  obtain ⟨tail, colon, htail, hread, hcolon⟩ := hname.read cs
  rw [readMembers, htail]
  simp only [hread, hcolon, h, hafter, hmore]

/-- An object is read from its first member on. -/
theorem readValue_object {cs : List Char} {members : List (Except Breach String × Reading)}
    (h : readMembers fuel cs = (members, .ok rest)) :
    readValue (fuel + 1) ('\x7b' :: cs) = (.object members none, .ok rest) := by
  have hskip : readMembers fuel (skipSpace cs) = readMembers fuel cs := by
    cases fuel with
    | zero => rfl
    | succ fuel =>
        have hidempotent : skipSpace (skipSpace cs) = skipSpace cs :=
          List.dropWhile_idempotent isSpace cs
        rw [readMembers, readMembers, hidempotent]
  have hhead : ∃ tail, skipSpace cs = '"' :: tail := by
    cases fuel with
    | zero => cases h
    | succ fuel =>
        rw [readMembers] at h
        split at h
        · next hquote => exact ⟨_, hquote⟩
        · cases h
  obtain ⟨tail, hcs⟩ := hhead
  rw [hcs] at hskip
  rw [readValue, skipSpace_cons (by decide)]
  simp only [hcs]
  show (Reading.object (readMembers fuel ('"' :: tail)).1 (readMembers fuel ('"' :: tail)).2.cut?,
    (readMembers fuel ('"' :: tail)).2) = _
  rw [hskip, h]
  rfl

/-! ## Values -/

/-- The text is read as the value, up to white space at its end. -/
def IsReadAs (cs : List Char) (value : Reading) : Prop :=
  ∀ fuel rest, cs.length ≤ fuel → EndsNumber rest →
    ∃ spaces, AreSpaces spaces ∧ readValue fuel (cs ++ rest) = (value, .ok (spaces ++ rest))

/-- It is enough to read the text from its first character on, and to read it to its end. -/
theorem isReadAs_cons {c : Char} {cs : List Char} {value : Reading}
    (h : ∀ fuel rest, cs.length ≤ fuel → EndsNumber rest →
      readValue (fuel + 1) (c :: (cs ++ rest)) = (value, .ok rest)) : IsReadAs (c :: cs) value := by
  intro fuel rest hfuel hrest
  cases fuel with
  | zero => cases hfuel
  | succ fuel => exact ⟨[], nofun, h fuel rest (Nat.le_of_succ_le_succ hfuel) hrest⟩

/-- A number is read from a text that spells it. -/
theorem SpellsNumber.isReadAs {number : Number} {cs : List Char} (h : SpellsNumber number cs) :
    IsReadAs cs (.number number) := by
  rcases h.read endsNumber_nil with ⟨tail, rfl, -⟩ | ⟨c, tail, rfl, hc, -⟩
  · refine isReadAs_cons fun fuel rest _ hrest => ?_
    rcases h.read hrest with ⟨tail', htail, hread⟩ | ⟨c, tail', htail, hc, -⟩
    · obtain rfl := List.tail_eq_of_cons_eq htail
      exact hread
    · rw [← List.head_eq_of_cons_eq htail] at hc
      cases hc
  · refine isReadAs_cons fun fuel rest _ hrest => ?_
    rcases h.read hrest with ⟨tail', htail, -⟩ | ⟨_, _, -, -, hread⟩
    · rw [List.head_eq_of_cons_eq htail] at hc
      cases hc
    · rw [readValue_digit hc]
      exact hread

/-- A string is read from a text that spells it. -/
theorem SpellsString.isReadAs {text : Except Breach String} {cs : List Char}
    (h : SpellsString text cs) : IsReadAs cs (.string text) := by
  obtain ⟨tail, rfl, -⟩ := h.read []
  refine isReadAs_cons fun fuel rest _ _ => ?_
  obtain ⟨_, htail, hread⟩ := h.read rest
  obtain rfl := List.tail_eq_of_cons_eq htail
  rw [readValue, skipSpace_cons (by decide)]
  simp only [hread]

/-- White space around a text does not change what it is read as. -/
theorem IsReadAs.spaced {before cs after : List Char} {value : Reading} (hbefore : AreSpaces before)
    (h : IsReadAs cs value) (hafter : AreSpaces after) :
    IsReadAs (before ++ (cs ++ after)) value := by
  intro fuel rest hfuel hrest
  rw [List.length_append, List.length_append] at hfuel
  obtain ⟨spaces, hspaces, hread⟩ :=
    h fuel (after ++ rest) (by omega) (hrest.spaces_append hafter)
  refine ⟨spaces ++ after, List.forall_mem_append.mpr ⟨hspaces, hafter⟩, ?_⟩
  rw [List.append_assoc, List.append_assoc, List.append_assoc,
    readValue_congr (skipSpace_append hbefore _), hread]

/-- The items of an array are read up to the closing bracket. -/
theorem readItems_intercalate {items : List SpelledItem} (hne : items ≠ [])
    (h : ∀ item ∈ items, IsReadAs item.chars item.value)
    (hfuel : ([','].intercalate (items.map SpelledItem.chars)).length < fuel) :
    readItems fuel ([','].intercalate (items.map SpelledItem.chars) ++ ']' :: rest) =
      (items.map SpelledItem.value, .ok rest) := by
  induction items generalizing fuel with
  | nil => exact absurd rfl hne
  | cons item items ih =>
      have hitem := h item List.mem_cons_self
      cases fuel with
      | zero => cases hfuel
      | succ fuel =>
          cases items with
          | nil =>
              rw [List.map_singleton, List.intercalate_singleton] at hfuel ⊢
              obtain ⟨spaces, hspaces, hread⟩ :=
                hitem fuel (']' :: rest) (by omega) (endsNumber_cons (.inr (.inl rfl)) _)
              exact readItems_last hread (skipSpace_append_cons hspaces (by decide) _)
          | cons next items =>
              rw [List.map_cons, List.map_cons, List.intercalate_cons_cons] at hfuel ⊢
              simp only [List.length_append, List.length_singleton] at hfuel
              have hmore := ih (List.cons_ne_nil _ _)
                (fun other hother => h other (List.mem_cons_of_mem _ hother))
                (show ([','].intercalate ((next :: items).map SpelledItem.chars)).length < fuel by
                  rw [List.map_cons]; omega)
              obtain ⟨spaces, hspaces, hread⟩ :=
                hitem fuel (',' :: ([','].intercalate ((next :: items).map SpelledItem.chars) ++
                  ']' :: rest)) (by omega) (endsNumber_cons (.inl rfl) _)
              rw [List.append_assoc, List.append_assoc, List.singleton_append]
              exact readItems_more hread (skipSpace_append_cons hspaces (by decide) _) hmore

/-- The members of an object are read up to the closing brace. -/
theorem readMembers_intercalate {members : List SpelledMember} (hne : members ≠ [])
    (hnames : ∀ member ∈ members, SpellsName member.name member.nameChars)
    (h : ∀ member ∈ members, IsReadAs member.valueChars member.value)
    (hfuel : ([','].intercalate (members.map SpelledMember.chars)).length < fuel) :
    readMembers fuel ([','].intercalate (members.map SpelledMember.chars) ++ '\x7d' :: rest) =
      (members.map fun member => (member.name, member.value), .ok rest) := by
  induction members generalizing fuel with
  | nil => exact absurd rfl hne
  | cons member members ih =>
      have hname := hnames member List.mem_cons_self
      have hvalue := h member List.mem_cons_self
      have hlength : member.chars.length =
          member.nameChars.length + (member.valueChars.length + 1) := by
        rw [SpelledMember.chars, List.length_append, List.length_cons]
      cases fuel with
      | zero => cases hfuel
      | succ fuel =>
          cases members with
          | nil =>
              rw [List.map_singleton, List.intercalate_singleton] at hfuel ⊢
              obtain ⟨spaces, hspaces, hread⟩ := hvalue fuel ('\x7d' :: rest) (by omega)
                (endsNumber_cons (.inr (.inr rfl)) _)
              rw [SpelledMember.chars, List.append_assoc]
              exact readMembers_last hname hread (skipSpace_append_cons hspaces (by decide) _)
          | cons next members =>
              rw [List.map_cons, List.map_cons, List.intercalate_cons_cons] at hfuel ⊢
              simp only [List.length_append, List.length_singleton] at hfuel
              have hmore := ih (List.cons_ne_nil _ _)
                (fun other hother => hnames other (List.mem_cons_of_mem _ hother))
                (fun other hother => h other (List.mem_cons_of_mem _ hother))
                (show ([','].intercalate ((next :: members).map SpelledMember.chars)).length <
                    fuel by
                  rw [List.map_cons]; omega)
              obtain ⟨spaces, hspaces, hread⟩ :=
                hvalue fuel
                  (',' :: ([','].intercalate ((next :: members).map SpelledMember.chars) ++
                    '\x7d' :: rest)) (by omega) (endsNumber_cons (.inl rfl) _)
              rw [SpelledMember.chars, List.append_assoc, List.append_assoc, List.append_assoc,
                List.singleton_append]
              exact readMembers_more hname hread (skipSpace_append_cons hspaces (by decide) _) hmore

/-- What a text spells is what it is read as. -/
theorem Spells.isReadAs {value : Reading} {cs : List Char} (h : Spells value cs) :
    IsReadAs cs value := by
  induction h with
  | null => exact isReadAs_cons fun _ _ _ _ => rfl
  | boolean b => cases b <;> exact isReadAs_cons fun _ _ _ _ => rfl
  | number h => exact h.isReadAs
  | string h => exact h.isReadAs
  | emptyArray hspaces =>
      refine isReadAs_cons fun fuel rest _ _ => ?_
      rw [readValue, skipSpace_cons (by decide), List.append_assoc]
      simp only [List.singleton_append,
        skipSpace_append_cons hspaces (show isSpace ']' = false by decide)]
  | array hne _ ih =>
      refine isReadAs_cons fun fuel rest hfuel _ => ?_
      rw [List.length_append, List.length_singleton] at hfuel
      rw [List.append_assoc, List.singleton_append]
      exact readValue_array (readItems_intercalate hne ih hfuel)
  | emptyObject hspaces =>
      refine isReadAs_cons fun fuel rest _ _ => ?_
      rw [readValue, skipSpace_cons (by decide), List.append_assoc]
      simp only [List.singleton_append,
        skipSpace_append_cons hspaces (show isSpace '\x7d' = false by decide)]
  | object hne hnames _ ih =>
      refine isReadAs_cons fun fuel rest hfuel _ => ?_
      rw [List.length_append, List.length_singleton] at hfuel
      rw [List.append_assoc, List.singleton_append]
      exact readValue_object (readMembers_intercalate hne hnames ih hfuel)
  | spaced hbefore _ hafter ih => exact ih.spaced hbefore hafter

/-- A text is read as what it spells, and nothing follows. -/
theorem Spells.ofText {value : Reading} {text : String} (h : Spells value text.toList) :
    Document.ofText text = ⟨value, false⟩ := by
  obtain ⟨spaces, hspaces, hread⟩ :=
    h.isReadAs (2 * text.toList.length + 2) [] (by omega) endsNumber_nil
  have hskip : skipSpace (spaces ++ []) = [] := skipSpace_append hspaces []
  rw [List.append_nil] at hread
  simp only [Document.ofText, hread, hskip]
  rfl

end MalwareScan.Json
