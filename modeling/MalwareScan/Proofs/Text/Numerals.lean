import MalwareScan.Text.Numeral
import Mathlib.Algebra.Ring.Int.Defs
import Mathlib.Algebra.Ring.Nat

/-!
# Numbers that texts denote

`Denotes` says which number a text denotes, whatever its size. The readers of numerals accept
exactly the texts that denote a number within their bounds: `unsigned?_eq_some_iff` and
`signed?_eq_some_iff`.
-/

namespace MalwareScan.Text

variable {cs digits : List Char} {n m : Int}

/-- Decimal digits, one at least. -/
structure IsDigits (cs : List Char) : Prop where
  ne_nil : cs ≠ []
  isDigit : ∀ c ∈ cs, c.isDigit = true

/-- The number that a text denotes: that of its digits, with a sign in front or without one. -/
inductive Denotes : List Char → Int → Prop where
  | plain (digits : List Char) : IsDigits digits → Denotes digits (digitsValue digits)
  | plus (digits : List Char) : IsDigits digits → Denotes ('+' :: digits) (digitsValue digits)
  | minus (digits : List Char) : IsDigits digits → Denotes ('-' :: digits) (-digitsValue digits)

/-- Digits do not begin with a sign. -/
theorem not_isDigits_cons {sign : Char} (hsign : sign.isDigit = false) (digits : List Char) :
    ¬ IsDigits (sign :: digits) := by
  intro h
  have hdigit := h.isDigit sign List.mem_cons_self
  rw [hsign] at hdigit
  cases hdigit

/-- Behind a plus sign there are digits. -/
theorem denotes_plus_iff :
    Denotes ('+' :: digits) n ↔ IsDigits digits ∧ n = digitsValue digits := by
  constructor
  · intro h
    cases h with
    | plain _ hdigits => exact absurd hdigits (not_isDigits_cons (by decide) digits)
    | plus _ hdigits => exact ⟨hdigits, rfl⟩
  · rintro ⟨hdigits, rfl⟩
    exact .plus digits hdigits

/-- So there are behind a minus sign. -/
theorem denotes_minus_iff :
    Denotes ('-' :: digits) n ↔ IsDigits digits ∧ n = -digitsValue digits := by
  constructor
  · intro h
    cases h with
    | plain _ hdigits => exact absurd hdigits (not_isDigits_cons (by decide) digits)
    | minus _ hdigits => exact ⟨hdigits, rfl⟩
  · rintro ⟨hdigits, rfl⟩
    exact .minus digits hdigits

/-- Without a sign there is nothing but digits. -/
theorem denotes_plain_iff (hplus : ∀ digits, cs ≠ '+' :: digits)
    (hminus : ∀ digits, cs ≠ '-' :: digits) :
    Denotes cs n ↔ IsDigits cs ∧ n = digitsValue cs := by
  constructor
  · intro h
    cases h with
    | plain _ hdigits => exact ⟨hdigits, rfl⟩
    | plus digits => exact absurd rfl (hplus digits)
    | minus digits => exact absurd rfl (hminus digits)
  · rintro ⟨hdigits, rfl⟩
    exact .plain cs hdigits

/-- A text denotes one number at most. -/
theorem Denotes.unique (h : Denotes cs n) (h' : Denotes cs m) : n = m := by
  by_cases hplus : ∃ digits, cs = '+' :: digits
  · obtain ⟨digits, rfl⟩ := hplus
    rw [(denotes_plus_iff.1 h).2, (denotes_plus_iff.1 h').2]
  by_cases hminus : ∃ digits, cs = '-' :: digits
  · obtain ⟨digits, rfl⟩ := hminus
    rw [(denotes_minus_iff.1 h).2, (denotes_minus_iff.1 h').2]
  have hplain := fun k => denotes_plain_iff (n := k) (not_exists.1 hplus) (not_exists.1 hminus)
  rw [((hplain n).1 h).2, ((hplain m).1 h').2]

/-- Digits are read as their value. -/
theorem digits?_eq_some_iff {k : Nat} :
    digits? cs = some k ↔ IsDigits cs ∧ k = digitsValue cs := by
  have hdigits : IsDigits cs ↔ ¬ (cs.isEmpty ∨ cs.any fun c => !c.isDigit) := by
    simp only [List.isEmpty_iff, List.any_eq_true, Bool.not_eq_true', not_or, not_exists, not_and,
      Bool.not_eq_false]
    exact ⟨fun h => ⟨h.ne_nil, h.isDigit⟩, fun h => ⟨h.1, h.2⟩⟩
  rw [hdigits, digits?]
  split
  · rename_i hbad
    exact ⟨nofun, fun h => absurd hbad h.1⟩
  · rename_i hgood
    rw [Option.some.injEq, eq_comm]
    exact ⟨fun h => ⟨hgood, h⟩, fun h => h.2⟩

/-- A number without a minus sign is read if it is not above the bound. -/
theorem unsigned?_eq_some_iff {max k : Nat} (hminus : ∀ digits, cs ≠ '-' :: digits) :
    unsigned? max cs = some k ↔ k ≤ max ∧ Denotes cs k := by
  unfold unsigned?
  rw [Option.filter_eq_some_iff, digits?_eq_some_iff, decide_eq_true_eq, and_comm]
  split
  · rw [denotes_plus_iff, Int.natCast_inj]
  · rename_i hplus
    rw [denotes_plain_iff hplus hminus, Int.natCast_inj]

/-- What is read are digits, or digits behind a plus sign, if their value is not above the bound. -/
theorem unsigned?_eq_some_iff_exists {max k : Nat} :
    unsigned? max cs = some k ↔
      k ≤ max ∧ ∃ digits, IsDigits digits ∧ k = digitsValue digits ∧
        (cs = digits ∨ cs = '+' :: digits) := by
  unfold unsigned?
  rw [Option.filter_eq_some_iff, digits?_eq_some_iff, decide_eq_true_eq, and_comm,
    and_congr_right_iff]
  rintro -
  split
  · rename_i rest
    constructor
    · rintro ⟨hdigits, hvalue⟩
      exact ⟨rest, hdigits, hvalue, .inr rfl⟩
    · rintro ⟨digits, hdigits, hvalue, rfl | heq⟩
      · exact absurd hdigits (not_isDigits_cons (by decide) rest)
      · obtain rfl := List.tail_eq_of_cons_eq heq
        exact ⟨hdigits, hvalue⟩
  · rename_i hplus
    constructor
    · rintro ⟨hdigits, hvalue⟩
      exact ⟨cs, hdigits, hvalue, .inl rfl⟩
    · rintro ⟨digits, hdigits, hvalue, rfl | rfl⟩
      · exact ⟨hdigits, hvalue⟩
      · exact absurd rfl (hplus digits)

/-- A minus sign is not read. -/
theorem unsigned?_minus (max : Nat) (digits : List Char) :
    unsigned? max ('-' :: digits) = none := by
  have hnone : digits? ('-' :: digits) = none := by
    rw [Option.eq_none_iff_forall_ne_some]
    intro k hk
    exact not_isDigits_cons (by decide) digits (digits?_eq_some_iff.1 hk).1
  show (digits? ('-' :: digits)).filter (fun n => n ≤ max) = none
  rw [hnone, Option.filter_none]

/-- Without a minus sign no number is negative. -/
theorem Denotes.nonneg (h : Denotes cs n) (hminus : ∀ digits, cs ≠ '-' :: digits) : 0 ≤ n := by
  cases h with
  | plain => exact Int.natCast_nonneg _
  | plus => exact Int.natCast_nonneg _
  | minus digits => exact absurd rfl (hminus digits)

/-- A number is read if it is between the bounds. -/
theorem signed?_eq_some_iff {min max : Int} (hmin : min ≤ 0) (hmax : 0 ≤ max) :
    signed? min max cs = some n ↔ min ≤ n ∧ n ≤ max ∧ Denotes cs n := by
  unfold signed?
  split
  · simp only [Option.filter_eq_some_iff, Option.map_eq_some_iff, Option.bind_eq_bind,
      Option.bind_eq_some_iff, Option.pure_def, Option.some.injEq, digits?_eq_some_iff,
      decide_eq_true_eq, denotes_minus_iff]
    constructor
    · rintro ⟨⟨_, ⟨_, ⟨hdigits, rfl⟩, rfl⟩, rfl⟩, hle⟩
      exact ⟨hle, by omega, hdigits, rfl⟩
    · rintro ⟨hle, -, hdigits, rfl⟩
      exact ⟨⟨_, ⟨_, ⟨hdigits, rfl⟩, rfl⟩, rfl⟩, hle⟩
  · rename_i hminus
    simp only [Option.filter_eq_some_iff, Option.map_eq_some_iff, Option.bind_eq_bind,
      Option.bind_eq_some_iff, Option.pure_def, Option.some.injEq, unsigned?_eq_some_iff hminus,
      decide_eq_true_eq]
    constructor
    · rintro ⟨⟨_, ⟨k, ⟨-, hdenotes⟩, rfl⟩, rfl⟩, hle⟩
      exact ⟨by omega, hle, hdenotes⟩
    · rintro ⟨-, hle, hdenotes⟩
      have hnonneg := hdenotes.nonneg hminus
      have hnat : (n.toNat : Int) = n := Int.toNat_of_nonneg hnonneg
      rw [← hnat] at hdenotes
      exact ⟨⟨_, ⟨n.toNat, ⟨by omega, hdenotes⟩, hnat⟩, rfl⟩, hle⟩

/-- A word of 64 bits is read from a text that denotes it, without a minus sign. -/
theorem uint64?_eq_some_iff {text : String} {word : UInt64} :
    uint64? text = some word ↔
      (∀ digits, text.toList ≠ '-' :: digits) ∧ Denotes text.toList word.toNat := by
  unfold uint64?
  by_cases hminus : ∃ digits, text.toList = '-' :: digits
  · obtain ⟨digits, hdigits⟩ := hminus
    rw [hdigits, unsigned?_minus]
    exact ⟨nofun, fun h => absurd rfl (h.1 digits)⟩
  · have hplain := not_exists.1 hminus
    simp only [Option.map_eq_some_iff, unsigned?_eq_some_iff hplain]
    constructor
    · rintro ⟨k, ⟨hle, hdenotes⟩, rfl⟩
      refine ⟨hplain, ?_⟩
      rwa [UInt64.toNat_ofNat_of_lt' (Nat.lt_succ_of_le hle)]
    · rintro ⟨-, hdenotes⟩
      exact ⟨word.toNat, ⟨Nat.le_of_lt_succ word.toNat_lt, hdenotes⟩, UInt64.ofNat_toNat⟩

/-- A word of 16 bits is read from its digits, with a plus sign in front or without one. -/
theorem uint16?_eq_some_iff {text : String} {word : UInt16} :
    uint16? text = some word ↔
      ∃ digits, IsDigits digits ∧ digitsValue digits = word.toNat ∧
        (text.toList = digits ∨ text.toList = '+' :: digits) := by
  simp only [uint16?, Option.map_eq_some_iff, unsigned?_eq_some_iff_exists]
  constructor
  · rintro ⟨k, ⟨hle, digits, hdigits, rfl, htext⟩, rfl⟩
    exact ⟨digits, hdigits, (UInt16.toNat_ofNat_of_lt' (Nat.lt_succ_of_le hle)).symm, htext⟩
  · rintro ⟨digits, hdigits, hvalue, htext⟩
    exact ⟨word.toNat, ⟨Nat.le_of_lt_succ word.toNat_lt, digits, hdigits, hvalue.symm, htext⟩,
      UInt16.ofNat_toNat⟩

/-- A signed number of 64 bits is read from a text that denotes it. -/
theorem int64?_eq_some_iff {text : String} :
    int64? text = some n ↔ -2 ^ 63 ≤ n ∧ n < 2 ^ 63 ∧ Denotes text.toList n := by
  rw [int64?, signed?_eq_some_iff (by decide) (by decide)]
  have hlt : n ≤ 9223372036854775807 ↔ n < 2 ^ 63 := by omega
  rw [hlt]
  rfl

end MalwareScan.Text
