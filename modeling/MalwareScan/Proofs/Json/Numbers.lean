import MalwareScan.Proofs.Json.Grammar
import Mathlib.Data.List.Basic

/-!
# Numbers are read

A number is read from every text that spells it, wherever the text after it does not go on with a
number. The text of an integer that fits 64 bits spells it: its digits have its value, and no zero
stands in front of them.
-/

namespace MalwareScan.Json

/-! ## Where a number ends -/

/-- A number does not go on here: there is no digit, no point and no exponent. -/
def EndsNumber (rest : List Char) : Prop :=
  ∀ c ∈ rest.head?, c.isDigit = false ∧ c ≠ '.' ∧ c ≠ 'e' ∧ c ≠ 'E'

/-- Nothing follows at the end of a text. -/
theorem endsNumber_nil : EndsNumber [] := nofun

/-- A number ends before the signs that stand after a value. -/
theorem endsNumber_cons {c : Char} (h : c = ',' ∨ c = ']' ∨ c = '\x7d') (rest : List Char) :
    EndsNumber (c :: rest) := by
  intro d hd
  obtain rfl : c = d := Option.some.inj hd
  rcases h with rfl | rfl | rfl <;> decide

variable {rest : List Char}

/-- A number ends before white space. -/
theorem EndsNumber.spaces_append {spaces : List Char} (hspaces : AreSpaces spaces)
    (hrest : EndsNumber rest) : EndsNumber (spaces ++ rest) := by
  cases spaces with
  | nil => exact hrest
  | cons c spaces =>
      intro d hd
      obtain rfl : c = d := Option.some.inj hd
      have hc := hspaces c List.mem_cons_self
      simp only [isSpace, Bool.or_eq_true, decide_eq_true_eq] at hc
      rcases hc with ((rfl | rfl) | rfl) | rfl <;> decide

/-- The digits end here, and there is no point. -/
def EndsFraction (rest : List Char) : Prop :=
  ∀ c ∈ rest.head?, c.isDigit = false ∧ c ≠ '.'

/-- An exponent ends the digits before it. -/
theorem SpellsExponent.endsFraction {exponent : Option Int} {power : List Char}
    (h : SpellsExponent exponent power) (hrest : EndsNumber rest) :
    EndsFraction (power ++ rest) := by
  intro c hc
  cases h with
  | none => exact ⟨(hrest c hc).1, (hrest c hc).2.1⟩
  | digits hmark _ _ =>
      obtain rfl := Option.some.inj hc
      rcases hmark with rfl | rfl <;> decide

/-- A point ends the digits before it. -/
theorem SpellsFraction.endsDigits {fraction : Option (List Char)} {point : List Char}
    (h : SpellsFraction fraction point) (hrest : EndsFraction rest) :
    ∀ c ∈ (point ++ rest).head?, c.isDigit = false := by
  intro c hc
  cases h with
  | none => exact (hrest c hc).1
  | digits _ =>
      obtain rfl := Option.some.inj hc
      decide

/-! ## The parts of a number -/

variable {digits : List Char}

/-- Digits are taken up to their end. -/
theorem takeWhile_digits (h : ∀ c ∈ digits, c.isDigit = true)
    (hrest : ∀ c ∈ rest.head?, c.isDigit = false) :
    (digits ++ rest).takeWhile Char.isDigit = digits := by
  have hstop : rest.takeWhile Char.isDigit = [] := by
    cases rest with
    | nil => rfl
    | cons c rest => rw [List.takeWhile_cons, hrest c rfl]; rfl
  rw [List.takeWhile_append_of_pos h, hstop, List.append_nil]

/-- What follows the digits is left. -/
theorem dropWhile_digits (h : ∀ c ∈ digits, c.isDigit = true)
    (hrest : ∀ c ∈ rest.head?, c.isDigit = false) :
    (digits ++ rest).dropWhile Char.isDigit = rest := by
  rw [List.dropWhile_append_of_pos h]
  cases rest with
  | nil => rfl
  | cons c rest => rw [List.dropWhile_cons, hrest c rfl]; rfl

/-- The integer part of a number is read. -/
theorem readWhole_append (h : AreDigits digits) (hzero : digits.head? = some '0' → digits = ['0'])
    (hrest : ∀ c ∈ rest.head?, c.isDigit = false) :
    readWhole (digits ++ rest) = .ok (digits, rest) := by
  rw [readWhole, takeWhile_digits h.2 hrest, dropWhile_digits h.2 hrest]
  split
  · exact absurd rfl h.1
  · cases hzero rfl
  · rfl

/-- The fraction of a number is read. -/
theorem SpellsFraction.read {fraction : Option (List Char)} {point : List Char}
    (h : SpellsFraction fraction point) (hrest : EndsFraction rest) :
    readFraction (point ++ rest) = .ok (fraction, rest) := by
  have hend : ∀ c ∈ rest.head?, c.isDigit = false := fun c hc => (hrest c hc).1
  cases h with
  | none =>
      cases rest with
      | nil => rfl
      | cons c rest =>
          rw [List.nil_append, readFraction]
          exact fun _ heq => (hrest c rfl).2 (List.head_eq_of_cons_eq heq)
  | digits hdigits =>
      rw [List.cons_append, readFraction, takeWhile_digits hdigits.2 hend,
        dropWhile_digits hdigits.2 hend]
      split
      · exact absurd rfl hdigits.1
      · rfl

/-- The sign of an exponent is read. -/
theorem SpellsSign.read {negative : Bool} {sign : List Char} (h : SpellsSign negative sign)
    (hdigits : AreDigits digits) :
    readSign (sign ++ (digits ++ rest)) = (negative, digits ++ rest) := by
  cases h with
  | plus => rfl
  | minus => rfl
  | none =>
      obtain ⟨hne, hall⟩ := hdigits
      cases digits with
      | nil => exact absurd rfl hne
      | cons d digits =>
          have hd := hall d List.mem_cons_self
          rw [List.nil_append, List.cons_append, readSign]
          · rintro _ ⟨⟩; cases hd
          · rintro _ ⟨⟩; cases hd

/-- The exponent of a number is read. -/
theorem SpellsExponent.read {exponent : Option Int} {power : List Char}
    (h : SpellsExponent exponent power) (hrest : EndsNumber rest) :
    readExponent (power ++ rest) = .ok (exponent, rest) := by
  have hend : ∀ c ∈ rest.head?, c.isDigit = false := fun c hc => (hrest c hc).1
  cases h with
  | none =>
      cases rest with
      | nil => rfl
      | cons c rest =>
          obtain ⟨-, -, hlower, hupper⟩ := hrest c rfl
          rw [List.nil_append, readExponent, if_neg (not_or.mpr ⟨hlower, hupper⟩)]
  | digits hmark hsign hdigits =>
      rw [List.cons_append, readExponent, if_pos hmark, List.append_assoc, hsign.read hdigits]
      simp only [takeWhile_digits hdigits.2 hend, dropWhile_digits hdigits.2 hend]
      split
      · exact absurd rfl hdigits.1
      · rfl

/-- A number is read from a text that spells it: behind the sign if there is one, and else from the
first digit on. -/
theorem SpellsNumber.read {number : Number} {cs : List Char} (h : SpellsNumber number cs)
    (hrest : EndsNumber rest) :
    (∃ tail, cs = '-' :: tail ∧ readNumber true (tail ++ rest) = (.number number, .ok rest)) ∨
    (∃ c tail, cs = c :: tail ∧ c.isDigit = true ∧
      readNumber false (cs ++ rest) = (.number number, .ok rest)) := by
  obtain @⟨negative, whole, fraction, exponent, point, power, hwhole, hzero, hfraction,
    hexponent⟩ := h
  have hread : ∀ negative, readNumber negative (whole ++ (point ++ power) ++ rest) =
      (.number (.ofParts negative whole fraction exponent), .ok rest) := fun negative => by
    have hpower := hexponent.endsFraction hrest
    rw [List.append_assoc, List.append_assoc]
    simp only [readNumber, readWhole_append hwhole hzero (hfraction.endsDigits hpower),
      hfraction.read hpower, hexponent.read hrest, bind, Except.bind]
  cases negative with
  | true => exact .inl ⟨whole ++ (point ++ power), rfl, hread true⟩
  | false =>
      obtain ⟨hne, hdigits⟩ := hwhole
      cases whole with
      | nil => exact absurd rfl hne
      | cons c whole =>
          exact .inr ⟨c, whole ++ (point ++ power), rfl, hdigits c List.mem_cons_self, hread false⟩

/-! ## The texts of integers -/

/-- The digits of a number have its value. -/
theorem digitsValue_natChars (n : Nat) : Text.digitsValue (natChars n) = n :=
  Nat.ofDigitChars_ten_toDigits

/-- The digits of a number are digits. -/
theorem areDigits_natChars (n : Nat) : AreDigits (natChars n) :=
  ⟨Nat.toDigits_ne_nil, fun _ => Nat.isDigit_of_mem_toDigits (by decide) (Nat.le_refl 10)⟩

/-- No zero stands in front of the digits of a positive number. -/
theorem head?_natChars_ne {n : Nat} (hpos : 0 < n) : (natChars n).head? ≠ some '0' := by
  have hdigit : ∀ m < 10, 0 < m → [Nat.digitChar m].head? ≠ some '0' := by decide
  induction n using Nat.strongRecOn with
  | ind n ih =>
      rcases Nat.lt_or_ge n 10 with hlt | hge
      · rw [natChars, Nat.toDigits_of_lt_base hlt]
        exact hdigit n hlt hpos
      · rw [natChars, Nat.toDigits_of_base_le (by decide) hge,
          List.head?_append_of_ne_nil _ Nat.toDigits_ne_nil]
        exact ih (n / 10) (by omega) (by omega)

/-- The digits of a natural number, with a sign or without one, spell the integer that they
denote. -/
theorem spellsNumber_natChars {negative : Bool} {n : Nat} {number : Number}
    (h : Number.ofInteger negative n = some number) :
    SpellsNumber number ((if negative then ['-'] else []) ++ natChars n) := by
  have hparts : Number.ofParts negative (natChars n) none none = number := by
    simp only [Number.ofParts, digitsValue_natChars, h]
  have hzero : (natChars n).head? = some '0' → natChars n = ['0'] := by
    rcases Nat.eq_zero_or_pos n with rfl | hpos
    · exact fun _ => rfl
    · exact fun hhead => absurd hhead (head?_natChars_ne hpos)
  have hspells : SpellsNumber (.ofParts negative (natChars n) none none) _ :=
    .parts (areDigits_natChars n) hzero .none .none
  rwa [hparts, List.append_nil, List.append_nil] at hspells

/-- An integer that fits 64 bits, with or without a sign. -/
def IsWord (n : Int) : Prop :=
  -9223372036854775808 ≤ n ∧ n ≤ 18446744073709551615

instance (n : Int) : Decidable (IsWord n) :=
  inferInstanceAs (Decidable (_ ∧ _))

/-- The text of an integer that fits 64 bits spells it. -/
theorem spellsNumber_intChars {n : Int} (h : IsWord n) :
    SpellsNumber (.integer n) (intChars n) := by
  obtain ⟨hlow, hhigh⟩ := h
  by_cases hneg : n < 0
  · have hinteger : Number.ofInteger true n.natAbs = some (.integer n) := by
      rw [Number.ofInteger, if_pos rfl, if_pos (by omega)]
      congr 2
      omega
    rw [intChars, if_pos hneg]
    exact spellsNumber_natChars hinteger
  · have hinteger : Number.ofInteger false n.natAbs = some (.integer n) := by
      rw [Number.ofInteger, if_neg (by decide), if_pos (by rw [maxSignificand]; omega)]
      congr 2
      omega
    rw [intChars, if_neg hneg]
    exact spellsNumber_natChars hinteger

end MalwareScan.Json
