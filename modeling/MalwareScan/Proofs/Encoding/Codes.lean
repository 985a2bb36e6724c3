import MalwareScan.Encoding.Hex

/-!
# Codes of one width

A code that spends the same number of characters or bits on every item is read back from what it
makes of a row of items, without any marks between them (`flatMap_inj`). Hexadecimal is one: two
texts are the same only if their bytes are (`Hex.encode_inj`). Its digits are in lower case, so
that nothing changes when they are put into it (`Hex.map_toLower_encode`).
-/

namespace MalwareScan

variable {α β : Type} {code : α → List β} {width : Nat}

/-- A row of items takes the width of the code for each of them. -/
theorem length_flatMap_code (hwidth : ∀ x, (code x).length = width) (items : List α) :
    (items.flatMap code).length = width * items.length := by
  induction items with
  | nil => rfl
  | cons x items ih => rw [List.flatMap_cons, List.length_append, ih, hwidth, List.length_cons,
      Nat.mul_succ, Nat.add_comm]

/-- Two rows have the same code only if they are the same, if so it is with single items. -/
theorem flatMap_inj {items others : List α} (hwidth : ∀ x, (code x).length = width)
    (hpos : 0 < width) (hinj : ∀ x ∈ items, ∀ y ∈ others, code x = code y → x = y)
    (h : items.flatMap code = others.flatMap code) : items = others := by
  have hlength : items.length = others.length := by
    apply Nat.eq_of_mul_eq_mul_left hpos
    rw [← length_flatMap_code hwidth, h, length_flatMap_code hwidth]
  induction items generalizing others with
  | nil => exact (List.length_eq_zero_iff.1 hlength.symm).symm
  | cons x items ih =>
      cases others with
      | nil => cases hlength
      | cons y others =>
          rw [List.flatMap_cons, List.flatMap_cons] at h
          obtain ⟨hhead, htail⟩ := List.append_inj h ((hwidth x).trans (hwidth y).symm)
          have hrest := ih (fun x hx y hy =>
            hinj x (List.mem_cons_of_mem _ hx) y (List.mem_cons_of_mem _ hy)) htail
            (Nat.succ.inj hlength)
          rw [hinj x List.mem_cons_self y List.mem_cons_self hhead, hrest]

namespace Hex

variable {a b : UInt8} {bytes others : Bytes}

/-- The value of a digit is read back. -/
theorem value?_digit : ∀ n < 16, value? (digit n) = some n := by decide

/-- Digits are in lower case. -/
theorem toLower_digit : ∀ n < 16, (digit n).toLower = digit n := by decide

/-- Different values have different digits. -/
theorem digit_inj {n m : Nat} (hn : n < 16) (hm : m < 16) (h : digit n = digit m) : n = m := by
  have hvalue := value?_digit n hn
  rw [h, value?_digit m hm] at hvalue
  exact (Option.some.inj hvalue).symm

/-- Different bytes have different digits. -/
theorem ofByte_inj (h : ofByte a = ofByte b) : a = b := by
  have ha := a.toNat_lt
  have hb := b.toNat_lt
  simp only [ofByte, List.cons.injEq, and_true] at h
  have hupper := digit_inj (by omega) (by omega) h.1
  have hlower := digit_inj (by omega) (by omega) h.2
  exact UInt8.toNat_inj.1 (by omega)

/-- Different bytes have different texts in hexadecimal. -/
theorem encode_inj (h : encode bytes = encode others) : bytes = others := by
  have hwidth : ∀ b, (ofByte b).length = 2 := fun _ => rfl
  exact flatMap_inj hwidth (by decide) (fun _ _ _ _ => ofByte_inj) (String.ofList_inj.1 h)

/-- A text in hexadecimal is in lower case. -/
theorem map_toLower_encode (bytes : Bytes) : (encode bytes).map Char.toLower = encode bytes := by
  have hbyte : ∀ b : UInt8, (ofByte b).map Char.toLower = ofByte b := by
    intro b
    have hb := b.toNat_lt
    rw [ofByte, List.map_cons, List.map_singleton, toLower_digit _ (by omega),
      toLower_digit _ (by omega)]
  apply String.toList_inj.1
  rw [String.toList_map, encode, String.toList_ofList, List.map_flatMap]
  simp only [hbyte]

/-- Only nothing has the empty text. -/
theorem isEmpty_encode (h : bytes ≠ []) : (encode bytes).isEmpty = false := by
  rw [Bool.eq_false_iff]
  intro hempty
  exact h (encode_inj ((String.isEmpty_iff.1 hempty).trans rfl))

end Hex

end MalwareScan
