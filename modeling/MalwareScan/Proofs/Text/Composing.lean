import MalwareScan.Text.Composition

/-!
# Characters that composing keeps

A mark can be joined to a letter and to three signs of ASCII. Any other ASCII character of a text is
also one of its composed form (`mem_compose`).
-/

namespace MalwareScan.Text

/-! ## The lines of a table -/

/-- The lines of a table are spelled by these characters. -/
def LinesSpelled (lines : List String) (spelled : List (List Char)) : Prop :=
  lines = spelled.map String.ofList

/-- Nothing spells a table without lines. -/
theorem LinesSpelled.nil : LinesSpelled [] [] :=
  rfl

/-- A line is spelled in front of the others. -/
theorem LinesSpelled.cons {line : List Char} {lines : List String} {spelled : List (List Char)}
    (h : LinesSpelled lines spelled) :
    LinesSpelled (String.ofList line :: lines) (line :: spelled) := by
  rw [LinesSpelled, List.map_cons, h]

/-- The entries of a table are the words of its lines. -/
theorem LinesSpelled.entries_eq {lines : List String} {spelled : List (List Char)}
    (h : LinesSpelled lines spelled) :
    entries lines = spelled.flatMap fun line => line.splitOn ' ' := by
  rw [h, entries, List.flatMap_map]
  simp only [String.toList_ofList]

namespace Composition

variable {c base : Char} {cs marks kept : List Char}

/-- A character of ASCII to which no mark is joined. -/
def isAlone (c : Char) : Bool :=
  c.toNat < 128 && !c.isAlpha && !(['<', '=', '>'].contains c)

/-- It is one of ASCII. -/
theorem lt_of_isAlone (h : isAlone c = true) : c.toNat < 128 := by
  simp only [isAlone, Bool.and_eq_true, decide_eq_true_eq] at h
  exact h.1.1

/-- A pair keeps clear of these characters: no one of them takes a mark, is one, or is composed. -/
def Pair.keepsClear (pair : Pair) : Bool :=
  !isAlone pair.first && 128 ≤ pair.second.toNat && 128 ≤ pair.whole.toNat

/-- The entries of a table keep clear of them if those of its lines do. -/
theorem all_keepsClear {lines : List String} {spelled : List (List Char)}
    (h : LinesSpelled lines spelled)
    (hall : (spelled.all fun line =>
      (line.splitOn ' ').all fun entry => (Pair.ofEntry entry).keepsClear) = true) :
    ((entries lines).map Pair.ofEntry).all Pair.keepsClear = true := by
  rw [h.entries_eq, List.all_map, List.all_flatMap]
  exact hall

/-- All pairs keep clear of them. -/
theorem keepsClear_pairs : pairs.all Pair.keepsClear = true := by
  rw [pairs]
  dsimp only
  apply all_keepsClear
  · repeat apply LinesSpelled.cons
    exact LinesSpelled.nil
  · decide +kernel

/-- So does each of them. -/
theorem keepsClear_of_mem {pair : Pair} (h : pair ∈ pairs) :
    isAlone pair.first = false ∧ 128 ≤ pair.second.toNat ∧ 128 ≤ pair.whole.toNat := by
  have hclear := List.all_eq_true.1 keepsClear_pairs pair h
  simpa [Pair.keepsClear, and_assoc] using hclear

/-! ## Taking apart -/

/-- A character of ASCII has no parts. -/
theorem parts_of_lt (h : c.toNat < 128) (fuel : Nat) : parts fuel c = [c] := by
  cases fuel with
  | zero =>
      unfold parts
      rfl
  | succ fuel =>
      have hsyllable : syllableParts? c.toNat = none := by
        have hlt : ¬ firstSyllable ≤ c.toNat := by
          rw [firstSyllable]
          omega
        simp [syllableParts?, hlt]
      have hpair : (pairs.find? fun pair => pair.whole == c) = none := by
        refine List.find?_eq_none.2 fun pair hpair heq => ?_
        have hwhole := (keepsClear_of_mem hpair).2.2
        rw [beq_iff_eq.1 heq] at hwhole
        omega
      unfold parts
      rw [hsyllable, hpair]

/-- A mark is put among the others. -/
theorem mem_insertMark {mark : Char} : c ∈ insertMark mark marks ↔ c = mark ∨ c ∈ marks := by
  induction marks with
  | nil => simp [insertMark]
  | cons last before ih =>
      rw [insertMark]
      split
      · rw [List.mem_cons, ih, List.mem_cons, or_left_comm]
      · rw [List.mem_cons]

/-- Sorting marks loses no character. -/
theorem mem_sortMarks (h : c ∈ marks ∨ c ∈ cs) : c ∈ sortMarks marks cs := by
  induction cs generalizing marks with
  | nil => simpa [sortMarks] using h
  | cons d cs ih =>
      rw [sortMarks]
      split
      · rw [List.mem_append, List.mem_reverse, List.mem_cons]
        rcases h with hmarks | hcs
        · exact .inl hmarks
        · exact .inr ((List.mem_cons.1 hcs).imp_right fun hmem => ih (.inr hmem))
      · refine ih ?_
        rw [mem_insertMark, or_comm (a := c = d), or_assoc]
        exact h.imp_right List.mem_cons.1

/-! ## Putting together -/

/-- Nothing is composed of such a character and another one behind it. -/
theorem composed?_alone (h : isAlone c = true) (mark : Char) : composed? c mark = none := by
  have hlt := lt_of_isAlone h
  have hsyllable : syllable? c.toNat mark.toNat = none := by
    rw [syllable?, if_neg (by simp only [firstLead]; omega),
      if_neg (by simp only [firstSyllable]; omega)]
  have hpair : (pairs.find? fun pair => pair.first == c && pair.second == mark) = none := by
    refine List.find?_eq_none.2 fun pair hpair heq => ?_
    have hfirst := (keepsClear_of_mem hpair).1
    rw [beq_iff_eq.1 (Bool.and_eq_true_iff.1 heq).1, h] at hfirst
    cases hfirst
  rw [composed?, hsyllable, hpair]
  rfl

/-- Nothing is composed of a character and one of ASCII behind it. -/
theorem composed?_of_lt (h : c.toNat < 128) (base : Char) : composed? base c = none := by
  have hsyllable : syllable? base.toNat c.toNat = none := by
    rw [syllable?, if_neg (by simp only [firstVowel]; omega),
      if_neg (by simp only [beforeFinals]; omega)]
  have hpair : (pairs.find? fun pair => pair.first == base && pair.second == c) = none := by
    refine List.find?_eq_none.2 fun pair hpair heq => ?_
    have hsecond := (keepsClear_of_mem hpair).2.1
    rw [beq_iff_eq.1 (Bool.and_eq_true_iff.1 heq).2] at hsecond
    omega
  rw [composed?, hsyllable, hpair]
  rfl

/-- Putting together keeps such a character, whether it is the base, a mark that was kept or one
of the characters behind. -/
theorem mem_join (hc : isAlone c = true) (h : c = base ∨ c ∈ kept ∨ c ∈ cs) :
    c ∈ join base kept cs := by
  have hlt := lt_of_isAlone hc
  -- Each character is joined to the base, put behind it, or is a new base.
  induction cs generalizing base kept with
  | nil => simpa [join] using h
  | cons d cs ih =>
      simp only [join]
      split
      · rename_i whole hwhole
        obtain ⟨-, hcomposed⟩ := Option.ite_none_right_eq_some.1 hwhole
        refine ih ?_
        rcases h with rfl | hkept | hcs
        · rw [composed?_alone hc] at hcomposed
          cases hcomposed
        · exact .inr (.inl hkept)
        · rcases List.mem_cons.1 hcs with rfl | hmem
          · rw [composed?_of_lt hlt] at hcomposed
            cases hcomposed
          · exact .inr (.inr hmem)
      · split
        · rw [List.mem_cons, List.mem_append, List.mem_reverse]
          refine h.imp_right fun h => h.imp_right fun hcs => ih ?_
          exact (List.mem_cons.1 hcs).imp_right .inr
        · refine ih (h.imp_right fun h => ?_)
          rwa [List.mem_cons, or_assoc, or_left_comm, ← List.mem_cons]

/-- Putting together a text keeps such a character. -/
theorem mem_joinAll (hc : isAlone c = true) (h : c ∈ cs) : c ∈ joinAll cs := by
  induction cs with
  | nil => exact h
  | cons d cs ih =>
      rw [joinAll]
      split
      · exact mem_join hc ((List.mem_cons.1 h).imp_right .inr)
      · exact List.mem_cons.2 ((List.mem_cons.1 h).imp_right ih)

end Composition

/-- A composed text has the characters of ASCII to which no mark is joined. -/
theorem mem_compose {c : Char} {cs : List Char} (hc : Composition.isAlone c = true) (h : c ∈ cs) :
    c ∈ compose cs := by
  have hlt := Composition.lt_of_isAlone hc
  refine Composition.mem_joinAll hc (Composition.mem_sortMarks (.inr ?_))
  exact List.mem_flatMap.2 ⟨c, h, by simp [Composition.parts_of_lt hlt]⟩

end MalwareScan.Text
