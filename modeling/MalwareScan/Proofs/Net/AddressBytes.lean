import MalwareScan.Net.Address
import Mathlib.Algebra.Ring.Nat

/-!
# Addresses as bytes

An address travels as its bytes, most significant first, and is read back from them: an IPv4 address
by `Ipv4.ofBytes` and an IPv6 address by `Ipv6.ofBytes?`.
-/

namespace MalwareScan

namespace Bytes

/-- The word of 16 bits whose bytes, most significant first, are `a` and `b`. -/
def toUInt16 (a b : UInt8) : UInt16 :=
  (a.toUInt16 <<< 8) ||| b.toUInt16

/-- The words of 16 bits that stand one after the other. -/
def toUInt16s : Bytes → List UInt16
  | a :: b :: rest => toUInt16 a b :: toUInt16s rest
  | _ => []

/-- A word of 16 bits is read back from its bytes. -/
theorem toUInt16_ofUInt16 (n : UInt16) : toUInt16 (n >>> 8).toUInt8 n.toUInt8 = n := by
  apply UInt16.toNat_inj.1
  have hn := n.toNat_lt
  have hlow : n.toNat % 2 ^ 8 < 2 ^ 8 := Nat.mod_lt _ (by decide)
  have hhigh : (n.toNat >>> 8 % 2 ^ 8) <<< 8 < 2 ^ 16 := by
    rw [Nat.shiftLeft_eq, Nat.shiftRight_eq_div_pow]
    omega
  simp only [toUInt16, UInt16.toNat_or, UInt16.toNat_shiftLeft, UInt8.toNat_toUInt16,
    UInt16.toNat_toUInt8, UInt16.toNat_shiftRight, UInt16.reduceToNat, Nat.reduceMod]
  rw [Nat.mod_eq_of_lt hhigh, ← Nat.shiftLeft_add_eq_or_of_lt hlow, Nat.shiftLeft_eq,
    Nat.shiftRight_eq_div_pow]
  omega

/-- So are many of them. -/
theorem toUInt16s_flatMap_ofUInt16 (words : List UInt16) :
    toUInt16s (words.flatMap ofUInt16) = words := by
  induction words with
  | nil => rfl
  | cons n words ih =>
      show toUInt16 (n >>> 8).toUInt8 n.toUInt8 :: toUInt16s (words.flatMap ofUInt16) = _
      rw [toUInt16_ofUInt16, ih]

/-- Bytes at their places in a word of 32 bits do not overlap, so that they add up. -/
theorem or_shiftLeft_eq_add {a b c d : Nat} (ha : a < 256) (hb : b < 256) (hc : c < 256)
    (hd : d < 256) :
    a <<< 24 % 2 ^ 32 ||| b <<< 16 % 2 ^ 32 ||| c <<< 8 % 2 ^ 32 ||| d =
      a * 2 ^ 24 + b * 2 ^ 16 + c * 2 ^ 8 + d := by
  have hlow : c <<< 8 + d < 2 ^ 16 := by
    rw [Nat.shiftLeft_eq]
    omega
  have hmiddle : b <<< 16 + (c <<< 8 + d) < 2 ^ 24 := by
    rw [Nat.shiftLeft_eq b]
    omega
  have hhigh : a <<< 24 + (b <<< 16 + (c <<< 8 + d)) < 2 ^ 32 := by
    rw [Nat.shiftLeft_eq a]
    omega
  rw [Nat.mod_eq_of_lt (by omega), Nat.mod_eq_of_lt (by omega), Nat.mod_eq_of_lt (by omega),
    Nat.or_assoc, Nat.or_assoc, ← Nat.shiftLeft_add_eq_or_of_lt (show d < 2 ^ 8 from hd) c,
    ← Nat.shiftLeft_add_eq_or_of_lt hlow b, ← Nat.shiftLeft_add_eq_or_of_lt hmiddle a]
  simp only [Nat.shiftLeft_eq]
  omega

/-- A word of 32 bits is read back from its bytes. -/
theorem toUInt32_ofUInt32 (word : UInt32) :
    toUInt32 (word >>> 24).toUInt8 (word >>> 16).toUInt8 (word >>> 8).toUInt8 word.toUInt8 =
      word := by
  apply UInt32.toNat_inj.1
  have hword := word.toNat_lt
  have hbyte : ∀ n, n % 2 ^ 8 < 256 := fun n => Nat.mod_lt n (by decide)
  simp only [toUInt32, UInt32.toNat_or, UInt32.toNat_shiftLeft, UInt8.toNat_toUInt32,
    UInt32.toNat_toUInt8, UInt32.toNat_shiftRight, UInt32.reduceToNat, Nat.reduceMod]
  rw [or_shiftLeft_eq_add (hbyte _) (hbyte _) (hbyte _) (hbyte _)]
  simp only [Nat.shiftRight_eq_div_pow]
  omega

end Bytes

namespace Net

/-- The bytes of an IPv4 address are four. -/
theorem Ipv4.exists_bytes (ip : Ipv4) :
    ∃ a b c d, ip.bytes = [a, b, c, d] ∧ Ipv4.ofBytes a b c d = ip := by
  refine ⟨_, _, _, _, rfl, ?_⟩
  rw [ofBytes, Bytes.toUInt32_ofUInt32]

/-- The IPv6 address with the given bytes. -/
def Ipv6.ofBytes? (bytes : Bytes) : Option Ipv6 :=
  Ipv6.ofList? bytes.toUInt16s

/-- The bytes of an IPv6 address are sixteen. -/
theorem Ipv6.length_bytes (ip : Ipv6) : ip.bytes.length = 16 := by
  have hwords (words : List UInt16) :
      (words.flatMap Bytes.ofUInt16).length = 2 * words.length := by
    induction words with
    | nil => rfl
    | cons n words ih =>
        rw [List.flatMap_cons, List.length_append, ih, List.length_cons]
        show 2 + 2 * words.length = _
        omega
  rw [bytes, hwords, toList, Vector.length_toList]

/-- An IPv6 address is read back from its bytes. -/
theorem Ipv6.ofBytes?_bytes (ip : Ipv6) : Ipv6.ofBytes? ip.bytes = some ip := by
  rw [ofBytes?, bytes, Bytes.toUInt16s_flatMap_ofUInt16, ofList?, toList,
    dif_pos (Vector.length_toList)]
  rfl

end Net

end MalwareScan
