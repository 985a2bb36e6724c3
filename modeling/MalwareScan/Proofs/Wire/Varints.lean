import Mathlib.Algebra.Ring.Nat
import MalwareScan.Wire.Varint

/-!
# Reading varints

A written varint is read back, whatever follows it, as long as its number has 64 bits
(`Varint.read_write`). What is read is never shorter than the shortest varint for the number
(`Varint.size_add_length_le`), and the number of bytes of that one grows with the number
(`Varint.size_le_iff`).
-/

namespace MalwareScan.Wire.Varint

variable {n m places : Nat} {bytes rest : Bytes}

/-! ## Reading what was written -/

/-- A number is read back if it fits the places: seven bits in each, and one bit in the last. -/
theorem readFrom_write (h : n < 2 * 128 ^ places) (rest : Bytes) :
    readFrom (places + 1) (write n ++ rest) = some (n, rest) := by
  induction n using write.induct generalizing places with
  | case1 n hsmall =>
      have hbyte : (UInt8.ofNat n).toNat = n := by
        rw [UInt8.toNat_ofNat']
        omega
      have hlast : UInt8.ofNat n < 0x80 := by
        rw [UInt8.lt_iff_toNat_lt, hbyte]
        exact hsmall
      have hroom : ¬ (places = 0 ∧ 2 ≤ UInt8.ofNat n) := by
        rintro ⟨rfl, hle⟩
        rw [UInt8.le_iff_toNat_le, hbyte] at hle
        have htwo : (2 : UInt8).toNat = 2 := rfl
        omega
      rw [write, dif_pos hsmall, List.singleton_append, readFrom, if_pos hlast, if_neg hroom, hbyte]
  | case2 n hlarge ih =>
      -- The low bits stand in front, and the others fit the places that are left.
      have hbyte : (UInt8.ofNat (n % 128 + 128)).toNat = n % 128 + 128 := by
        rw [UInt8.toNat_ofNat']
        omega
      have hmore : ¬ UInt8.ofNat (n % 128 + 128) < 0x80 := by
        rw [UInt8.lt_iff_toNat_lt, hbyte]
        have heighty : (0x80 : UInt8).toNat = 128 := rfl
        omega
      cases places with
      | zero => omega
      | succ places =>
          have hhigh : n / 128 < 2 * 128 ^ places := by
            rw [Nat.pow_succ] at h
            omega
          have hvalue : n % 128 + 128 - 128 + 128 * (n / 128) = n := by omega
          rw [write, dif_neg hlarge, List.cons_append, readFrom, if_neg hmore, ih hhigh]
          simp only [Option.bind_eq_bind, Option.bind_some, hbyte, hvalue]

/-- A number of 64 bits is read back. -/
theorem read_write (h : n < UInt64.size) (rest : Bytes) :
    read (write n ++ rest) = some (n, rest) := by
  have hplaces : n < 2 * 128 ^ 9 := by simpa [UInt64.size] using h
  exact readFrom_write hplaces rest

/-! ## What is read -/

/-- The shortest varint has a byte. -/
theorem size_pos (n : Nat) : 0 < size n := by
  rw [size]
  split <;> omega

/-- How many numbers have a varint of so many bytes. -/
theorem size_le_iff : size n ≤ places + 1 ↔ n < 128 ^ (places + 1) := by
  induction n using size.induct generalizing places with
  | case1 n hsmall =>
      have hle : 128 ^ 1 ≤ 128 ^ (places + 1) := Nat.pow_le_pow_right (by decide) (by omega)
      rw [size, dif_pos hsmall]
      omega
  | case2 n hlarge ih =>
      rw [size, dif_neg hlarge]
      cases places with
      | zero =>
          have hpos := size_pos (n / 128)
          omega
      | succ places =>
          rw [Nat.add_le_add_iff_right, ih, Nat.div_lt_iff_lt_mul (by decide), ← Nat.pow_succ]

/-- A smaller number has no longer varint. -/
theorem size_le_size (h : n ≤ m) : size n ≤ size m := by
  obtain ⟨places, hplaces⟩ : ∃ places, size m = places + 1 :=
    ⟨size m - 1, by have := size_pos m; omega⟩
  rw [hplaces, size_le_iff]
  exact Nat.lt_of_le_of_lt h (size_le_iff.1 (Nat.le_of_eq hplaces))

/-- The bytes that are read are at least those of the shortest varint. -/
theorem size_add_length_le (h : readFrom places bytes = some (n, rest)) :
    size n + rest.length ≤ bytes.length := by
  induction places, bytes using readFrom.induct generalizing n with
  | case1 => cases h
  | case2 => cases h
  | case3 places b _ hlast hroom =>
      rw [readFrom, if_pos hlast, if_pos hroom] at h
      cases h
  | case4 places b _ hlast hroom =>
      rw [readFrom, if_pos hlast, if_neg hroom] at h
      cases h
      have hone : size b.toNat ≤ 0 + 1 := size_le_iff.2 (UInt8.lt_iff_toNat_lt.1 hlast)
      simp only [List.length_cons]
      omega
  | case5 places b tail hmore ih =>
      rw [readFrom, if_neg hmore] at h
      simp only [Option.bind_eq_bind, Option.bind_eq_some_iff, Option.some.injEq,
        Prod.mk.injEq] at h
      obtain ⟨⟨high, rest'⟩, hhigh, rfl, rfl⟩ := h
      have hsize : size high + rest'.length ≤ tail.length := ih hhigh
      have hlt := b.toNat_lt
      have hstep : size (b.toNat - 128 + 128 * high) ≤ size high + 1 := by
        have hdiv : (b.toNat - 128 + 128 * high) / 128 = high := by omega
        rw [size]
        split
        · omega
        · exact Nat.le_of_eq (by rw [hdiv])
      simp only [List.length_cons]
      omega

/-- What is read has 64 bits: the tenth byte has room for one. -/
theorem lt_of_readFrom (h : readFrom (places + 1) bytes = some (n, rest)) :
    n < 2 * 128 ^ places := by
  induction places generalizing bytes n with
  | zero =>
      cases bytes with
      | nil => cases h
      | cons b tail =>
          rw [readFrom] at h
          split at h
          · split at h
            · cases h
            · rename_i hroom
              cases h
              rw [not_and, UInt8.le_iff_toNat_le] at hroom
              have hlt := hroom rfl
              have htwo : (2 : UInt8).toNat = 2 := rfl
              omega
          · simp [readFrom] at h
  | succ places ih =>
      cases bytes with
      | nil => cases h
      | cons b tail =>
          have hlt := b.toNat_lt
          have hpos : 0 < 128 ^ places := Nat.pow_pos (by decide)
          rw [readFrom] at h
          split at h
          · rename_i hlast
            rw [UInt8.lt_iff_toNat_lt] at hlast
            have heighty : (0x80 : UInt8).toNat = 128 := rfl
            rw [if_neg (by simp)] at h
            cases h
            rw [Nat.pow_succ]
            omega
          · simp only [Option.bind_eq_bind, Option.bind_eq_some_iff, Option.some.injEq,
              Prod.mk.injEq] at h
            obtain ⟨⟨high, rest'⟩, hhigh, rfl, rfl⟩ := h
            have hbound := ih hhigh
            rw [Nat.pow_succ]
            omega

/-- What is read has 64 bits. -/
theorem lt_of_read (h : read bytes = some (n, rest)) : n < UInt64.size := by
  have hlt : n < 2 * 128 ^ 9 := lt_of_readFrom h
  simpa [UInt64.size] using hlt

end MalwareScan.Wire.Varint
