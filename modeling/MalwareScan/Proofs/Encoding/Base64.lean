import MalwareScan.Encoding.Base64
import MalwareScan.Proofs.Encoding.Codes
import Mathlib.Algebra.Ring.Nat
import Mathlib.Data.List.Basic

/-!
# Base64 by bits

Base64 cuts the bits of its bytes into groups of six, and each of these is written as one symbol.
`Spells` says so without an encoder: which characters spell which bytes. Decoding accepts exactly
these characters, `decode?_eq_some_iff`. On the way there, decoding accepts exactly what encoding
writes (`decodeChars?_eq_some_iff`), what is written spells the bytes (`spells_encodeChars`), and
bytes are spelled in one way only (`Spells.unique`). `IsFlawed` lists why characters spell
nothing, and `exists_spells_iff` says that the list is complete.
-/

namespace MalwareScan.Base64

variable {bytes rest group : Bytes} {chars other : List Char} {a b c d : Char} {i j k l n : Nat}

/-! ## The format -/

/-- The symbols, each at the place of its value. -/
def alphabet : List Char :=
  "ABCDEFGHIJKLMNOPQRSTUVWXYZabcdefghijklmnopqrstuvwxyz0123456789+/".toList

/-- The lowest bits of a number, most significant first. -/
def bits : (width n : Nat) → List Bool
  | 0, _ => []
  | width + 1, n => bits width (n / 2) ++ [n % 2 == 1]

/-- The six bits that a symbol stands for. -/
def bitsOf (c : Char) : List Bool :=
  bits 6 (alphabet.idxOf c)

/-- Characters spell bytes: the bits of the symbols are those of the bytes, with less than six zeros
behind them, and less than four padding characters complete the last group of four. -/
def Spells (chars : List Char) (bytes : Bytes) : Prop :=
  ∃ symbols zeros padding,
    chars = symbols ++ List.replicate padding '=' ∧ padding < 4 ∧ 4 ∣ chars.length ∧
      (∀ c ∈ symbols, c ∈ alphabet) ∧ zeros < 6 ∧
      symbols.flatMap bitsOf =
        bytes.flatMap (fun byte => bits 8 byte.toNat) ++ List.replicate zeros false

/-! ## Symbols -/

/-- The symbol for a value stands in the alphabet. -/
theorem symbol_mem : ∀ n < 64, symbol n ∈ alphabet := by decide +kernel

/-- Its place there is the value. -/
theorem idxOf_symbol : ∀ n < 64, alphabet.idxOf (symbol n) = n := by decide +kernel

/-- The value of a symbol is read back. -/
theorem value?_symbol : ∀ n < 64, value? (symbol n) = some n := by decide

/-- Only symbols have a value. -/
theorem eq_symbol_of_value? (h : value? c = some n) : n < 64 ∧ c = symbol n := by
  have hascii : ∀ code < 128, (value? (Char.ofNat code)).all fun n =>
      n < 64 && Char.ofNat code == symbol n := by
    decide
  have hcode : c.toNat < 128 := by
    unfold value? at h
    grind
  have hall := hascii c.toNat hcode
  rw [Char.ofNat_toNat, h] at hall
  simpa using hall

/-- What has a value is no padding. -/
theorem ne_pad_of_value? (h : value? c = some n) : c ≠ '=' := by
  have hpad : value? '=' = none := by decide
  rintro rfl
  rw [hpad] at h
  cases h

/-! ## From values to bytes -/

/-- Two values make up a first byte. -/
theorem toNat_first (hi : i < 64) (hj : j < 64) :
    (UInt8.ofNat (i * 4 + j / 16)).toNat = i * 4 + j / 16 :=
  UInt8.toNat_ofNat_of_lt' (show _ < 256 by omega)

/-- Two values make up a second byte. -/
theorem toNat_second (hk : k < 64) :
    (UInt8.ofNat (j % 16 * 16 + k / 4)).toNat = j % 16 * 16 + k / 4 :=
  UInt8.toNat_ofNat_of_lt' (show _ < 256 by omega)

/-- Two values make up a third byte. -/
theorem toNat_third (hl : l < 64) : (UInt8.ofNat (k % 4 * 64 + l)).toNat = k % 4 * 64 + l :=
  UInt8.toNat_ofNat_of_lt' (show _ < 256 by omega)

/-- Four values are those of the three bytes that they make up. -/
theorem encodeChars_three (hi : i < 64) (hj : j < 64) (hk : k < 64) (hl : l < 64) (rest : Bytes) :
    encodeChars (UInt8.ofNat (i * 4 + j / 16) :: UInt8.ofNat (j % 16 * 16 + k / 4) ::
        UInt8.ofNat (k % 4 * 64 + l) :: rest) =
      symbol i :: symbol j :: symbol k :: symbol l :: encodeChars rest := by
  have hi' : (i * 4 + j / 16) / 4 = i := by omega
  have hj' : (i * 4 + j / 16) % 4 * 16 + (j % 16 * 16 + k / 4) / 16 = j := by omega
  have hk' : (j % 16 * 16 + k / 4) % 16 * 4 + (k % 4 * 64 + l) / 64 = k := by omega
  have hl' : (k % 4 * 64 + l) % 64 = l := by omega
  rw [encodeChars, toNat_first hi hj, toNat_second hk, toNat_third hl, hi', hj', hk', hl']

/-- Three values whose last two bits are zero are those of two bytes. -/
theorem encodeChars_two (hi : i < 64) (hj : j < 64) (hk : k < 64) (hzero : k % 4 = 0) :
    encodeChars [UInt8.ofNat (i * 4 + j / 16), UInt8.ofNat (j % 16 * 16 + k / 4)] =
      [symbol i, symbol j, symbol k, '='] := by
  have hi' : (i * 4 + j / 16) / 4 = i := by omega
  have hj' : (i * 4 + j / 16) % 4 * 16 + (j % 16 * 16 + k / 4) / 16 = j := by omega
  have hk' : (j % 16 * 16 + k / 4) % 16 * 4 = k := by omega
  rw [encodeChars, toNat_first hi hj, toNat_second hk, hi', hj', hk']

/-- Two values whose last four bits are zero are those of one byte. -/
theorem encodeChars_one (hi : i < 64) (hj : j < 64) (hzero : j % 16 = 0) :
    encodeChars [UInt8.ofNat (i * 4 + j / 16)] = [symbol i, symbol j, '=', '='] := by
  have hi' : (i * 4 + j / 16) / 4 = i := by omega
  have hj' : (i * 4 + j / 16) % 4 * 16 = j := by omega
  rw [encodeChars, toNat_first hi hj, hi', hj']

/-! ## Decoding inverts encoding -/

/-- The bytes of a last group are written as this group. -/
theorem encodeChars_of_lastGroup? (h : lastGroup? a b c d = some bytes) :
    encodeChars bytes = [a, b, c, d] := by
  simp only [lastGroup?, bind, Option.bind_eq_some_iff] at h
  obtain ⟨i, ha, j, hb, h⟩ := h
  obtain ⟨hi, rfl⟩ := eq_symbol_of_value? ha
  obtain ⟨hj, rfl⟩ := eq_symbol_of_value? hb
  by_cases hc : c = '='
  · rw [if_pos hc, Option.ite_none_right_eq_some] at h
    obtain ⟨⟨rfl, hzero⟩, hbytes⟩ := h
    cases hbytes
    rw [hc, encodeChars_one hi hj hzero]
  · rw [if_neg hc, Option.bind_eq_some_iff] at h
    obtain ⟨k, hc, h⟩ := h
    obtain ⟨hk, rfl⟩ := eq_symbol_of_value? hc
    by_cases hd : d = '='
    · rw [if_pos hd, Option.ite_none_right_eq_some] at h
      obtain ⟨hzero, hbytes⟩ := h
      cases hbytes
      rw [hd, encodeChars_two hi hj hk hzero]
    · rw [if_neg hd, Option.bind_eq_some_iff] at h
      obtain ⟨l, hd, hbytes⟩ := h
      obtain ⟨hl, rfl⟩ := eq_symbol_of_value? hd
      cases hbytes
      exact encodeChars_three hi hj hk hl []

/-- So are those of a group in front of others. -/
theorem encodeChars_of_innerGroup? (h : innerGroup? a b c d = some group) (rest : Bytes) :
    encodeChars (group ++ rest) = a :: b :: c :: d :: encodeChars rest := by
  simp only [innerGroup?, bind, Option.bind_eq_some_iff, Option.some.injEq] at h
  obtain ⟨i, ha, j, hb, k, hc, l, hd, rfl⟩ := h
  obtain ⟨hi, rfl⟩ := eq_symbol_of_value? ha
  obtain ⟨hj, rfl⟩ := eq_symbol_of_value? hb
  obtain ⟨hk, rfl⟩ := eq_symbol_of_value? hc
  obtain ⟨hl, rfl⟩ := eq_symbol_of_value? hd
  exact encodeChars_three hi hj hk hl rest

/-- What is decoded is written as the characters it came from. -/
theorem encodeChars_of_decodeChars? (h : decodeChars? chars = some bytes) :
    encodeChars bytes = chars := by
  fun_induction decodeChars? chars generalizing bytes with
  | case1 =>
      cases h
      rfl
  | case2 a b c d => exact encodeChars_of_lastGroup? h
  | case3 a b c d rest _ ih =>
      simp only [bind, Option.bind_eq_some_iff, Option.some.injEq] at h
      obtain ⟨group, hgroup, bytes, hrest, rfl⟩ := h
      rw [encodeChars_of_innerGroup? hgroup, ih hrest]
  | case4 => cases h

/-- A group that needs no padding may be the last one. -/
theorem lastGroup?_of_innerGroup? (h : innerGroup? a b c d = some group) :
    lastGroup? a b c d = some group := by
  simp only [innerGroup?, bind, Option.bind_eq_some_iff, Option.some.injEq] at h
  obtain ⟨i, ha, j, hb, k, hc, l, hd, rfl⟩ := h
  simp [lastGroup?, ha, hb, hc, hd, ne_pad_of_value? hc, ne_pad_of_value? hd]

/-- A group and what follows it are decoded one after the other. -/
theorem decodeChars?_group (hgroup : innerGroup? a b c d = some group)
    (hrest : decodeChars? chars = some rest) :
    decodeChars? (a :: b :: c :: d :: chars) = some (group ++ rest) := by
  cases chars with
  | nil =>
      cases hrest
      rw [List.append_nil]
      exact lastGroup?_of_innerGroup? hgroup
  | cons e chars =>
      rw [decodeChars?, hgroup, hrest]
      · rfl
      · nofun

/-- Three bytes are read back from their group. -/
theorem innerGroup?_symbols (x y z : UInt8) :
    innerGroup? (symbol (x.toNat / 4)) (symbol (x.toNat % 4 * 16 + y.toNat / 16))
      (symbol (y.toNat % 16 * 4 + z.toNat / 64)) (symbol (z.toNat % 64)) = some [x, y, z] := by
  have hx := x.toNat_lt
  have hy := y.toNat_lt
  have hz := z.toNat_lt
  have hi := value?_symbol (x.toNat / 4) (by omega)
  have hj := value?_symbol (x.toNat % 4 * 16 + y.toNat / 16) (by omega)
  have hk := value?_symbol (y.toNat % 16 * 4 + z.toNat / 64) (by omega)
  have hl := value?_symbol (z.toNat % 64) (by omega)
  have hfirst : x.toNat / 4 * 4 + (x.toNat % 4 * 16 + y.toNat / 16) / 16 = x.toNat := by omega
  have hsecond : (x.toNat % 4 * 16 + y.toNat / 16) % 16 * 16 +
      (y.toNat % 16 * 4 + z.toNat / 64) / 4 = y.toNat := by omega
  have hthird : (y.toNat % 16 * 4 + z.toNat / 64) % 4 * 64 + z.toNat % 64 = z.toNat := by omega
  simp only [innerGroup?, bind, hi, hj, hk, hl, Option.bind_some, hfirst, hsecond, hthird,
    UInt8.ofNat_toNat]

/-- One byte is read back from the last group. -/
theorem lastGroup?_one (x : UInt8) :
    lastGroup? (symbol (x.toNat / 4)) (symbol (x.toNat % 4 * 16)) '=' '=' = some [x] := by
  have hx := x.toNat_lt
  have hi := value?_symbol (x.toNat / 4) (by omega)
  have hj := value?_symbol (x.toNat % 4 * 16) (by omega)
  have hzero : x.toNat % 4 * 16 % 16 = 0 := by omega
  have hfirst : x.toNat / 4 * 4 + x.toNat % 4 * 16 / 16 = x.toNat := by omega
  simp only [lastGroup?, bind, hi, hj, Option.bind_some, hzero, hfirst, UInt8.ofNat_toNat,
    reduceIte, and_self]

/-- So are two bytes. -/
theorem lastGroup?_two (x y : UInt8) :
    lastGroup? (symbol (x.toNat / 4)) (symbol (x.toNat % 4 * 16 + y.toNat / 16))
      (symbol (y.toNat % 16 * 4)) '=' = some [x, y] := by
  have hx := x.toNat_lt
  have hy := y.toNat_lt
  have hi := value?_symbol (x.toNat / 4) (by omega)
  have hj := value?_symbol (x.toNat % 4 * 16 + y.toNat / 16) (by omega)
  have hk := value?_symbol (y.toNat % 16 * 4) (by omega)
  have hzero : y.toNat % 16 * 4 % 4 = 0 := by omega
  have hfirst : x.toNat / 4 * 4 + (x.toNat % 4 * 16 + y.toNat / 16) / 16 = x.toNat := by omega
  have hsecond : (x.toNat % 4 * 16 + y.toNat / 16) % 16 * 16 + y.toNat % 16 * 4 / 4 = y.toNat := by
    omega
  simp only [lastGroup?, bind, hi, hj, hk, ne_pad_of_value? hk, Option.bind_some, hzero, hfirst,
    hsecond, UInt8.ofNat_toNat, reduceIte]

/-- The bytes that are written as some characters are decoded from them. -/
theorem decodeChars?_encodeChars (bytes : Bytes) :
    decodeChars? (encodeChars bytes) = some bytes := by
  fun_induction encodeChars bytes with
  | case1 => rfl
  | case2 x => exact lastGroup?_one x
  | case3 x y => exact lastGroup?_two x y
  | case4 x y z rest ih => exact decodeChars?_group (innerGroup?_symbols x y z) ih

/-- Decoding accepts exactly what encoding writes. -/
theorem decodeChars?_eq_some_iff : decodeChars? chars = some bytes ↔ chars = encodeChars bytes := by
  constructor
  · exact fun h => (encodeChars_of_decodeChars? h).symm
  · rintro rfl
    exact decodeChars?_encodeChars bytes

/-! ## Bits -/

/-- The bits of a number are as many as are asked for. -/
theorem length_bits (width n : Nat) : (bits width n).length = width := by
  induction width generalizing n with
  | zero => rfl
  | succ width ih => rw [bits, List.length_append, ih, List.length_singleton]

/-- The bits of a number are those of its upper part and those of its lower part. -/
theorem bits_add (high low x : Nat) {y : Nat} (hy : y < 2 ^ low) :
    bits (high + low) (x * 2 ^ low + y) = bits high x ++ bits low y := by
  induction low generalizing y with
  | zero =>
      obtain rfl : y = 0 := by omega
      rw [Nat.pow_zero, Nat.mul_one, Nat.add_zero, Nat.add_zero, bits, List.append_nil]
  | succ low ih =>
      rw [Nat.pow_succ] at hy
      have hhalf : (x * 2 ^ (low + 1) + y) / 2 = x * 2 ^ low + y / 2 := by
        rw [Nat.pow_succ, ← Nat.mul_assoc]
        omega
      have hlast : (x * 2 ^ (low + 1) + y) % 2 = y % 2 := by
        rw [Nat.pow_succ, ← Nat.mul_assoc]
        omega
      rw [← Nat.add_assoc, bits, bits, hhalf, hlast, ih (by omega), List.append_assoc]

/-- So the bits of a number are split at any place. -/
theorem bits_split (high low n : Nat) :
    bits (high + low) n = bits high (n / 2 ^ low) ++ bits low (n % 2 ^ low) := by
  rw [← bits_add high low _ (Nat.mod_lt n (Nat.two_pow_pos low)), Nat.div_add_mod']

/-- Numbers with the same bits are the same, if the bits hold them. -/
theorem eq_of_bits_eq {width n m : Nat} (hn : n < 2 ^ width) (hm : m < 2 ^ width)
    (h : bits width n = bits width m) : n = m := by
  induction width generalizing n m with
  | zero => omega
  | succ width ih =>
      rw [Nat.pow_succ] at hn hm
      rw [bits, bits] at h
      obtain ⟨hhalf, hlast⟩ := List.append_inj' h rfl
      have hupper := ih (by omega) (by omega) hhalf
      have hodd : n % 2 = 1 ↔ m % 2 = 1 := by
        rw [← beq_iff_eq, List.head_eq_of_cons_eq hlast, beq_iff_eq]
      omega

/-- The bits of a symbol are those of its value. -/
theorem bitsOf_symbol (h : n < 64) : bitsOf (symbol n) = bits 6 n := by
  rw [bitsOf, idxOf_symbol n h]

/-- A symbol whose value has two parts stands for the bits of both. -/
theorem bitsOf_symbol_add (high low : Nat) {x y : Nat} (hsum : high + low = 6) (hx : x < 2 ^ high)
    (hy : y < 2 ^ low) : bitsOf (symbol (x * 2 ^ low + y)) = bits high x ++ bits low y := by
  have hvalue : x * 2 ^ low + y < 64 := by
    calc x * 2 ^ low + y < x * 2 ^ low + 2 ^ low := Nat.add_lt_add_left hy _
      _ = (x + 1) * 2 ^ low := (Nat.succ_mul x _).symm
      _ ≤ 2 ^ high * 2 ^ low := Nat.mul_le_mul_right _ hx
      _ = 64 := by rw [← Nat.pow_add, hsum]
  rw [bitsOf_symbol hvalue, ← hsum, bits_add high low x hy]

/-- Every character stands for six bits. -/
theorem length_bitsOf (c : Char) : (bitsOf c).length = 6 :=
  length_bits 6 _

/-- Symbols with the same bits are the same. -/
theorem bitsOf_inj (hc : c ∈ alphabet) (hd : d ∈ alphabet) (h : bitsOf c = bitsOf d) : c = d :=
  (List.idxOf_inj hc).1
    (eq_of_bits_eq (List.idxOf_lt_length_iff.2 hc) (List.idxOf_lt_length_iff.2 hd) h)

/-! ## What is written spells the bytes -/

/-- The first symbol of a group leaves two bits of the first byte. -/
theorem bits_first (x : UInt8) :
    bits 8 x.toNat = bitsOf (symbol (x.toNat / 4)) ++ bits 2 (x.toNat % 4) := by
  have hx := x.toNat_lt
  rw [bitsOf_symbol (by omega)]
  exact bits_split 6 2 x.toNat

/-- The second symbol has these two and half of the second byte, or zeros. -/
theorem bitsOf_second (x : UInt8) {y : Nat} (hy : y < 16) :
    bitsOf (symbol (x.toNat % 4 * 16 + y)) = bits 2 (x.toNat % 4) ++ bits 4 y :=
  bitsOf_symbol_add 2 4 rfl (Nat.mod_lt _ (by decide)) hy

/-- The third symbol has the other half and two bits of the third byte, or zeros. -/
theorem bitsOf_third (y : UInt8) {z : Nat} (hz : z < 4) :
    bitsOf (symbol (y.toNat % 16 * 4 + z)) = bits 4 (y.toNat % 16) ++ bits 2 z :=
  bitsOf_symbol_add 4 2 rfl (Nat.mod_lt _ (by decide)) hz

/-- The halves of the second byte stand in the second and in the third symbol. -/
theorem bits_second (y : UInt8) :
    bits 8 y.toNat = bits 4 (y.toNat / 16) ++ bits 4 (y.toNat % 16) :=
  bits_split 4 4 y.toNat

/-- One byte at the end is spelled by two symbols. -/
theorem spells_one (x : UInt8) :
    Spells [symbol (x.toNat / 4), symbol (x.toNat % 4 * 16), '=', '='] [x] := by
  have hx := x.toNat_lt
  have hsecond := bitsOf_second x (show 0 < 16 by decide)
  rw [Nat.add_zero] at hsecond
  refine ⟨[symbol (x.toNat / 4), symbol (x.toNat % 4 * 16)], 4, 2, rfl, by decide, ⟨1, rfl⟩, ?_,
    by decide, ?_⟩
  · simp only [List.forall_mem_cons]
    exact ⟨symbol_mem _ (by omega), symbol_mem _ (by omega), nofun⟩
  · simp only [List.flatMap_cons, List.flatMap_nil, List.append_nil, bits_first, hsecond,
      List.append_assoc]
    rfl

/-- Two bytes at the end are spelled by three symbols. -/
theorem spells_two (x y : UInt8) :
    Spells [symbol (x.toNat / 4), symbol (x.toNat % 4 * 16 + y.toNat / 16),
      symbol (y.toNat % 16 * 4), '='] [x, y] := by
  have hx := x.toNat_lt
  have hy := y.toNat_lt
  have hsecond := bitsOf_second x (show y.toNat / 16 < 16 by omega)
  have hthird := bitsOf_third y (show 0 < 4 by decide)
  rw [Nat.add_zero] at hthird
  refine ⟨[symbol (x.toNat / 4), symbol (x.toNat % 4 * 16 + y.toNat / 16),
    symbol (y.toNat % 16 * 4)], 2, 1, rfl, by decide, ⟨1, rfl⟩, ?_, by decide, ?_⟩
  · simp only [List.forall_mem_cons]
    exact ⟨symbol_mem _ (by omega), symbol_mem _ (by omega), symbol_mem _ (by omega), nofun⟩
  · simp only [List.flatMap_cons, List.flatMap_nil, List.append_nil, bits_first x, bits_second y,
      hsecond, hthird, List.append_assoc]
    rfl

/-- Three bytes in front of others are spelled by four symbols. -/
theorem Spells.cons_group (h : Spells chars rest) (x y z : UInt8) :
    Spells (symbol (x.toNat / 4) :: symbol (x.toNat % 4 * 16 + y.toNat / 16) ::
      symbol (y.toNat % 16 * 4 + z.toNat / 64) :: symbol (z.toNat % 64) :: chars)
      (x :: y :: z :: rest) := by
  have hx := x.toNat_lt
  have hy := y.toNat_lt
  have hz := z.toNat_lt
  have hlast : bits 8 z.toNat = bits 2 (z.toNat / 64) ++ bits 6 (z.toNat % 64) :=
    bits_split 2 6 z.toNat
  have hsecond := bitsOf_second x (show y.toNat / 16 < 16 by omega)
  have hthird := bitsOf_third y (show z.toNat / 64 < 4 by omega)
  have hfourth := bitsOf_symbol (show z.toNat % 64 < 64 by omega)
  obtain ⟨symbols, zeros, padding, hchars, hpadding, hgroups, hmem, hzeros, hbits⟩ := h
  refine ⟨symbol (x.toNat / 4) :: symbol (x.toNat % 4 * 16 + y.toNat / 16) ::
    symbol (y.toNat % 16 * 4 + z.toNat / 64) :: symbol (z.toNat % 64) :: symbols, zeros, padding,
    by rw [hchars]; rfl, hpadding, ?_, ?_, hzeros, ?_⟩
  · simp only [List.length_cons]
    omega
  · simp only [List.forall_mem_cons]
    exact ⟨symbol_mem _ (by omega), symbol_mem _ (by omega), symbol_mem _ (by omega),
      symbol_mem _ (by omega), hmem⟩
  · simp only [List.flatMap_cons, bits_first x, bits_second y, hlast, hsecond, hthird, hfourth,
      hbits, List.append_assoc]

/-- What is written for some bytes spells them. -/
theorem spells_encodeChars (bytes : Bytes) : Spells (encodeChars bytes) bytes := by
  fun_induction encodeChars bytes with
  | case1 => exact ⟨[], 0, 0, rfl, by decide, by decide, nofun, by decide, rfl⟩
  | case2 x => exact spells_one x
  | case3 x y => exact spells_two x y
  | case4 x y z rest ih => exact ih.cons_group x y z

/-! ## Bytes are spelled in one way -/

/-- The symbols take up the bits of the bytes and the zeros behind them. -/
theorem length_of_bits_eq {symbols : List Char} {zeros : Nat}
    (hbits : symbols.flatMap bitsOf =
      bytes.flatMap (fun byte => bits 8 byte.toNat) ++ List.replicate zeros false) :
    6 * symbols.length = 8 * bytes.length + zeros := by
  have hwidth : ∀ byte : UInt8, (bits 8 byte.toNat).length = 8 := fun _ => length_bits 8 _
  have hlength := congrArg List.length hbits
  rwa [length_flatMap_code length_bitsOf, List.length_append, length_flatMap_code hwidth,
    List.length_replicate] at hlength

/-- Bytes are spelled in one way only: their number settles how many zeros there are, the bits
settle the symbols, and the number of symbols settles the padding. -/
theorem Spells.unique (h : Spells chars bytes) (h' : Spells other bytes) : chars = other := by
  obtain ⟨symbols, zeros, padding, rfl, hpadding, hgroups, hmem, hzeros, hbits⟩ := h
  obtain ⟨symbols', zeros', padding', rfl, hpadding', hgroups', hmem', hzeros', hbits'⟩ := h'
  have hlength := length_of_bits_eq hbits
  have hlength' := length_of_bits_eq hbits'
  rw [List.length_append, List.length_replicate] at hgroups hgroups'
  -- Both numbers of zeros complete the same bits to a multiple of six, and are below six.
  obtain rfl : zeros = zeros' := by omega
  obtain rfl : symbols = symbols' :=
    flatMap_inj length_bitsOf (by decide) (fun c hc d hd => bitsOf_inj (hmem c hc) (hmem' d hd))
      (hbits.trans hbits'.symm)
  obtain rfl : padding = padding' := by omega
  rfl

/-- What is spelled consists of symbols and padding. -/
theorem Spells.mem (h : Spells chars bytes) (hc : c ∈ chars) : c ∈ alphabet ∨ c = '=' := by
  obtain ⟨symbols, zeros, padding, rfl, -, -, hmem, -⟩ := h
  rcases List.mem_append.1 hc with hsymbol | hpad
  · exact .inl (hmem c hsymbol)
  · exact .inr (List.eq_of_mem_replicate hpad)

/-- Decoding accepts exactly what spells some bytes, and gives these. -/
theorem decode?_eq_some_iff {s : String} : decode? s = some bytes ↔ Spells s.toList bytes := by
  rw [decode?, decodeChars?_eq_some_iff]
  constructor
  · intro h
    rw [h]
    exact spells_encodeChars bytes
  · exact fun h => h.unique (spells_encodeChars bytes)

/-! ## Texts that spell nothing -/

/-- Why characters spell no bytes. -/
inductive IsFlawed (chars : List Char) : Prop
  | foreign {c : Char} (hmem : c ∈ chars) (hsymbol : c ∉ alphabet) (hpad : c ≠ '=')
  | ragged (hlength : ¬ 4 ∣ chars.length)
  | padInside {before after : List Char} {c : Char} (hchars : chars = before ++ '=' :: after)
      (hmem : c ∈ after) (hpad : c ≠ '=')
  | overpadded (hcount : 3 ≤ chars.count '=')
  | unusedBit {symbols : List Char} {padding : Nat}
      (hchars : chars = symbols ++ List.replicate padding '=') (hmem : ∀ c ∈ symbols, c ∈ alphabet)
      (hbit : true ∈ (symbols.flatMap bitsOf).drop (8 * (6 * symbols.length / 8)))

/-- The padding character is no symbol. -/
theorem pad_not_mem : '=' ∉ alphabet := by decide +kernel

/-- Symbols are counted apart from padding. -/
theorem count_pad {symbols : List Char} (hmem : ∀ c ∈ symbols, c ∈ alphabet) (padding : Nat) :
    (symbols ++ List.replicate padding '=').count '=' = padding := by
  have hnone : '=' ∉ symbols := fun h => pad_not_mem (hmem '=' h)
  rw [List.count_append, List.count_eq_zero.2 hnone, List.count_replicate_self, Nat.zero_add]

/-- There are less zeros behind the bits of the bytes than a byte has bits: they are the bits that
no byte uses. -/
theorem drop_bits {symbols : List Char} {zeros : Nat} (hzeros : zeros < 6)
    (hbits : symbols.flatMap bitsOf =
      bytes.flatMap (fun byte => bits 8 byte.toNat) ++ List.replicate zeros false) :
    (symbols.flatMap bitsOf).drop (8 * (6 * symbols.length / 8)) = List.replicate zeros false := by
  have hwidth : ∀ byte : UInt8, (bits 8 byte.toNat).length = 8 := fun _ => length_bits 8 _
  have hlength := length_of_bits_eq hbits
  rw [hbits, List.drop_left']
  rw [length_flatMap_code hwidth]
  omega

/-- After symbols and padding have come to the padding, nothing else follows. -/
theorem eq_pad_of_mem_after {symbols before after : List Char} {padding : Nat}
    (hmem : ∀ c ∈ symbols, c ∈ alphabet)
    (h : symbols ++ List.replicate padding '=' = before ++ '=' :: after) :
    ∀ c ∈ after, c = '=' := by
  intro c hc
  apply List.eq_of_mem_replicate (show c ∈ List.replicate padding '=' from ?_)
  rcases List.append_eq_append_iff.1 h with ⟨rest, -, hrest⟩ | ⟨rest, hsymbols, hrest⟩
  · rw [hrest]
    exact List.mem_append_right _ (List.mem_cons_of_mem _ hc)
  · cases rest with
    | nil =>
        rw [List.nil_append] at hrest
        rw [← hrest]
        exact List.mem_cons_of_mem _ hc
    | cons d rest =>
        obtain rfl := List.head_eq_of_cons_eq hrest
        rw [hsymbols] at hmem
        exact absurd (hmem '=' (List.mem_append_right _ List.mem_cons_self)) pad_not_mem

/-- What is flawed spells no bytes. -/
theorem IsFlawed.not_spells (hflawed : IsFlawed chars) : ¬ Spells chars bytes := by
  intro h
  have hletters : ∀ c ∈ chars, c ∈ alphabet ∨ c = '=' := fun c => h.mem
  obtain ⟨symbols, zeros, padding, rfl, hpadding, hgroups, hmem, hzeros, hbits⟩ := h
  cases hflawed with
  | foreign hforeign hsymbol hpad => exact (hletters _ hforeign).elim hsymbol hpad
  | ragged hlength => exact hlength hgroups
  | padInside hchars hafter hpad => exact hpad (eq_pad_of_mem_after hmem hchars _ hafter)
  | overpadded hcount =>
      have hlength := length_of_bits_eq hbits
      rw [List.length_append, List.length_replicate] at hgroups
      rw [count_pad hmem] at hcount
      omega
  | @unusedBit symbols' padding' hchars hmem' hbit =>
      have hpaddings : padding = padding' := by
        rw [← count_pad hmem padding, hchars, count_pad hmem']
      rw [hpaddings] at hchars
      obtain rfl := List.append_cancel_right hchars
      rw [drop_bits hzeros hbits] at hbit
      cases List.eq_of_mem_replicate hbit

/-- Every row of bits is that of a number. -/
theorem exists_bits_eq (row : List Bool) : ∃ n < 2 ^ row.length, bits row.length n = row := by
  induction row with
  | nil => exact ⟨0, by decide, rfl⟩
  | cons bit row ih =>
      obtain ⟨n, hn, hbits⟩ := ih
      have hfirst : bits 1 bit.toNat = [bit] := by cases bit <;> rfl
      have hbit := Nat.mul_le_mul_right (2 ^ row.length) bit.toNat_le
      refine ⟨bit.toNat * 2 ^ row.length + n, ?_, ?_⟩
      · rw [List.length_cons, Nat.pow_succ]
        omega
      · rw [List.length_cons, Nat.add_comm, bits_add 1 row.length _ hn, hfirst, hbits]
        rfl

/-- Every row of octets is that of some bytes. -/
theorem exists_bytes_eq (count : Nat) (row : List Bool) (hlength : row.length = 8 * count) :
    ∃ bytes : Bytes, bytes.flatMap (fun byte => bits 8 byte.toNat) = row := by
  induction count generalizing row with
  | zero => exact ⟨[], (List.length_eq_zero_iff.1 hlength).symm⟩
  | succ count ih =>
      have htake : (row.take 8).length = 8 := by
        rw [List.length_take]
        omega
      obtain ⟨n, hn, hbits⟩ := exists_bits_eq (row.take 8)
      obtain ⟨bytes, hbytes⟩ := ih (row.drop 8) (by rw [List.length_drop]; omega)
      rw [htake] at hn hbits
      refine ⟨UInt8.ofNat n :: bytes, ?_⟩
      rw [List.flatMap_cons, hbytes, UInt8.toNat_ofNat_of_lt' hn, hbits, List.take_append_drop]

/-- Symbols and padding that nothing but padding follows are symbols and then padding. -/
theorem exists_symbols (hmem : ∀ c ∈ chars, c ∈ alphabet ∨ c = '=')
    (hend : ∀ before after, chars = before ++ '=' :: after → ∀ c ∈ after, c = '=') :
    ∃ symbols padding,
      chars = symbols ++ List.replicate padding '=' ∧ ∀ c ∈ symbols, c ∈ alphabet := by
  induction chars with
  | nil => exact ⟨[], 0, rfl, nofun⟩
  | cons c chars ih =>
      rcases hmem c List.mem_cons_self with hsymbol | rfl
      · obtain ⟨symbols, padding, rfl, hsymbols⟩ := ih
          (fun d hd => hmem d (List.mem_cons_of_mem _ hd))
          (fun before after h => hend (c :: before) after (congrArg (c :: ·) h))
        exact ⟨c :: symbols, padding, rfl, List.forall_mem_cons.2 ⟨hsymbol, hsymbols⟩⟩
      · refine ⟨[], chars.length + 1, ?_, nofun⟩
        rw [List.nil_append, List.replicate_succ, List.cons.injEq, List.eq_replicate_iff]
        exact ⟨rfl, rfl, hend [] chars rfl⟩

/-- Symbols and padding without any of the other flaws spell the bytes that their bits make up. -/
theorem exists_spells_of_symbols {symbols : List Char} {padding : Nat}
    (hmem : ∀ c ∈ symbols, c ∈ alphabet)
    (hflawed : ¬ IsFlawed (symbols ++ List.replicate padding '=')) :
    ∃ bytes, Spells (symbols ++ List.replicate padding '=') bytes := by
  have hgroups : 4 ∣ (symbols ++ List.replicate padding '=').length := by
    by_contra h
    exact hflawed (.ragged h)
  have hpadding : padding < 3 := by
    rw [← count_pad hmem padding]
    exact Nat.lt_of_not_le fun h => hflawed (.overpadded h)
  -- A set bit behind the last whole byte would be one that no byte uses.
  have hzeros : (symbols.flatMap bitsOf).drop (8 * (6 * symbols.length / 8)) =
      List.replicate (6 * symbols.length % 8) false := by
    rw [List.eq_replicate_iff]
    constructor
    · rw [List.length_drop, length_flatMap_code length_bitsOf]
      omega
    · intro bit hbit
      rw [← Bool.not_eq_true]
      rintro rfl
      exact hflawed (.unusedBit rfl hmem hbit)
  obtain ⟨bytes, hbytes⟩ := exists_bytes_eq (6 * symbols.length / 8)
    ((symbols.flatMap bitsOf).take (8 * (6 * symbols.length / 8))) (by
      rw [List.length_take, length_flatMap_code length_bitsOf]
      omega)
  refine ⟨bytes, symbols, 6 * symbols.length % 8, padding, rfl, by omega, hgroups, hmem, ?_, ?_⟩
  · rw [List.length_append, List.length_replicate] at hgroups
    omega
  · rw [hbytes, ← hzeros, List.take_append_drop]

/-- Characters spell bytes unless they are flawed. -/
theorem exists_spells_iff : (∃ bytes, Spells chars bytes) ↔ ¬ IsFlawed chars := by
  constructor
  · rintro ⟨bytes, h⟩ hflawed
    exact hflawed.not_spells h
  · intro hflawed
    obtain ⟨symbols, padding, rfl, hmem⟩ : ∃ symbols padding,
        chars = symbols ++ List.replicate padding '=' ∧ ∀ c ∈ symbols, c ∈ alphabet := by
      apply exists_symbols
      · intro c hc
        by_contra h
        exact hflawed (.foreign hc (not_or.1 h).1 (not_or.1 h).2)
      · intro before after hchars c hc
        by_contra hpad
        exact hflawed (.padInside hchars hc hpad)
    exact exists_spells_of_symbols hmem hflawed

end MalwareScan.Base64
