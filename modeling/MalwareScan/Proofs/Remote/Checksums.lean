import MalwareScan.Proofs.Encoding.Base64
import MalwareScan.Remote.BucketObject

/-!
# Checksums of objects in buckets

A service states checksums in base64, and they are shown in hexadecimal. `checksums_are_base64`
says for every text whether it is a checksum, and of which bytes; different texts are shown
differently.
-/

namespace MalwareScan

open Base64 (Spells IsFlawed)

variable {checksum hex : String}

/-- The character that a composite checksum has before the number of its parts is no symbol, so that
looking for it refuses nothing else. -/
theorem checksumHex?_eq (checksum : String) :
    checksumHex? checksum = (Base64.decode? checksum).map Hex.encode := by
  unfold checksumHex?
  by_cases hdash : '-' ∈ checksum.toList
  · have hforeign : '-' ∉ Base64.alphabet ∧ '-' ≠ '=' := by decide +kernel
    have hnone : Base64.decode? checksum = none := by
      rw [Option.eq_none_iff_forall_ne_some]
      intro bytes h
      exact (IsFlawed.foreign hdash hforeign.1 hforeign.2).not_spells
        (Base64.decode?_eq_some_iff.1 h)
    rw [hnone, if_pos (List.contains_iff_mem.2 hdash), Option.map_none]
  · exact if_neg (mt List.contains_iff_mem.1 hdash)

/-- What is shown is the hexadecimal form of the bytes that the checksum spells. -/
theorem checksumHex?_eq_some_iff :
    checksumHex? checksum = some hex ↔
      ∃ bytes, Spells checksum.toList bytes ∧ hex = Hex.encode bytes := by
  rw [checksumHex?_eq, Option.map_eq_some_iff]
  simp only [Base64.decode?_eq_some_iff, eq_comm (b := hex)]

/-- What is no checksum is flawed as base64. -/
theorem checksumHex?_eq_none_iff : checksumHex? checksum = none ↔ IsFlawed checksum.toList := by
  rw [checksumHex?_eq, Option.map_eq_none_iff, ← not_iff_not, ← Base64.exists_spells_iff]
  simp only [← Base64.decode?_eq_some_iff]
  exact Option.ne_none_iff_exists'

/-- Checksums are base64: each spells the bytes that are shown in hexadecimal, a text that spells
none is flawed and no checksum, as are those that state a number of parts, and different checksums
are shown differently. -/
theorem checksums_are_base64 (checksum : String) :
    (∀ hex, checksumHex? checksum = some hex ↔
      ∃ bytes, Spells checksum.toList bytes ∧ hex = Hex.encode bytes) ∧
    (checksumHex? checksum = none ↔ IsFlawed checksum.toList) ∧
    (∀ parts, checksumHex? (checksum ++ "-" ++ parts) = none) ∧
    ∀ other hex, checksumHex? checksum = some hex → checksumHex? other = some hex →
      checksum = other := by
  refine ⟨fun hex => checksumHex?_eq_some_iff, checksumHex?_eq_none_iff, ?_, ?_⟩
  · intro parts
    rw [checksumHex?_eq_none_iff]
    exact .foreign (by simp) (by decide +kernel : '-' ∉ Base64.alphabet) (by decide)
  · intro other hex h hother
    obtain ⟨bytes, hspells, rfl⟩ := checksumHex?_eq_some_iff.1 h
    obtain ⟨bytes', hspells', hbytes⟩ := checksumHex?_eq_some_iff.1 hother
    obtain rfl := Hex.encode_inj hbytes
    exact String.toList_inj.1 (hspells.unique hspells')

/-- The SHA-1 checksum of a greeting: no other text is shown as it is, and it is none if it counts
parts. -/
theorem checksums_are_base64_greeting :
    checksumHex? "Kq5sNclPz7QV2+lfQIuc6R7oRu0=" = some "2aae6c35c94fcfb415dbe95f408b9ce91ee846ed" ∧
    checksumHex? "Kq5sNclPz7QV2+lfQIuc6R7oRu0=-3" = none ∧
    ∀ other, checksumHex? other = some "2aae6c35c94fcfb415dbe95f408b9ce91ee846ed" →
      "Kq5sNclPz7QV2+lfQIuc6R7oRu0=" = other := by
  have hshown : checksumHex? "Kq5sNclPz7QV2+lfQIuc6R7oRu0=" =
      some "2aae6c35c94fcfb415dbe95f408b9ce91ee846ed" := by
    decide +kernel
  obtain ⟨-, -, hparts, hinj⟩ := checksums_are_base64 "Kq5sNclPz7QV2+lfQIuc6R7oRu0="
  exact ⟨hshown, hparts "3", fun other => hinj other _ hshown⟩

/-- Bits that no byte uses must not be set. -/
example : checksumHex? "KR==" = none := by decide +kernel

end MalwareScan
