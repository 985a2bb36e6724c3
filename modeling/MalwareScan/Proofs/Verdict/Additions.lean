import MalwareScan.Proofs.Json.Omissions
import MalwareScan.Proofs.Verdict.RoundTrip

/-!
# Verdicts in larger and smaller documents

A service may add members to its documents, write them in another order and leave out members that
have their default values. Who reads a verdict does not notice: the fields are found among
whatever else the objects hold, at every level.
-/

namespace MalwareScan

open Json

/-- Verdicts and detailed verdicts are read back from every text that states them: with the
members of each object in any order, with white space between any tokens, and with members of
other names, whatever their values are and however deeply these are nested. And a document is read
as the one without some of the members that state the default values of their fields, at any
level, whatever else they state. -/
theorem additions_and_omissions_read_alike :
    (∀ (verdict : Verdict) (reading : Json.Reading) (text : String),
      (Verdict.codec.encode verdict).StatedBy reading → Spells reading text.toList →
        Verdict.codec.read text = .ok verdict) ∧
    (∀ (verdict : DetailedVerdict) (reading : Json.Reading) (text : String),
      (DetailedVerdict.codec.encode verdict).StatedBy reading → Spells reading text.toList →
        DetailedVerdict.codec.read text = .ok verdict) ∧
    (∀ (full short : Json.Reading) (fullText shortText : String),
      Relation.ReflTransGen Verdict.codec.Omits full short →
      Spells full fullText.toList → Spells short shortText.toList →
        Verdict.codec.read fullText = Verdict.codec.read shortText) ∧
    (∀ (full short : Json.Reading) (fullText shortText : String),
      Relation.ReflTransGen DetailedVerdict.codec.Omits full short →
      Spells full fullText.toList → Spells short shortText.toList →
        DetailedVerdict.codec.read fullText = DetailedVerdict.codec.read shortText) :=
  ⟨fun _ _ _ hstated htext => Verdict.isFaithful_codec.read_stated hstated htext,
    fun _ _ _ hstated htext => DetailedVerdict.isFaithful_codec.read_stated hstated htext,
    fun _ _ _ _ homits hfull hshort => Codec.read_eq_of_omits homits hfull hshort,
    fun _ _ _ _ homits hfull hshort => Codec.read_eq_of_omits homits hfull hshort⟩

/-- A verdict without detections. -/
def cleanVerdict : Verdict where
  version := "1"
  result := 0
  scanId := "id"
  timestamp := "now"
  fileName := "f"
  detections := []

/-- A value with nested objects, a name and a text full of signs that mean something elsewhere. -/
def laterValue : Json :=
  .array [.object [("\x7d\"", .array [.object [], .string "\\\"\x7b,"])], .null]

/-- The value can be written and read back. -/
theorem isPlain_laterValue : laterValue.IsPlain := by
  simp [laterValue, IsPlain, ArePlain, MembersPlain]

/-- The members of a document for the verdict, the last field first. -/
def ownMembers : List (String × Json) :=
  [("fileName", .string "f"), ("scanTimestamp", .string "now"), ("scanId", .string "id"),
    ("scanResult", .number (.integer 0)), ("version", .string "1")]

/-- The document, with one more member that no field has the name of. -/
def largerDocument : Json :=
  .object (("later", laterValue) :: ("foundMalwares", .array []) :: ownMembers)

/-- The document without the empty list of detections. -/
def smallerDocument : Json :=
  .object (("later", laterValue) :: ownMembers)

/-- The document states the verdict. -/
theorem statedBy_largerDocument :
    (Verdict.codec.encode cleanVerdict).StatedBy largerDocument.reading := by
  let stated (member : String × Json) : StatedMember := ⟨member.1, member.2, member.2.reading⟩
  let own : List StatedMember :=
    (ownMembers.reverse ++ [("foundMalwares", Json.array [])]).map stated
  have hown : ∀ member ∈ own, member.value.StatedBy member.reading :=
    List.forall_mem_map.mpr fun member _ => statedBy_reading member.2
  have hlater : ∃ cs, Spells laterValue.reading cs := ⟨_, isPlain_laterValue.spells⟩
  let all : List (Except Breach String × Json.Reading) :=
    own.map (fun member => (.ok member.name, member.reading)) ++ [(.ok "later", laterValue.reading)]
  have hreverse :
      memberReadings (("later", laterValue) :: ("foundMalwares", .array []) :: ownMembers) =
        all.reverse := by
    simp [memberReadings, ownMembers, all, own, stated]
  have hmembers := hreverse ▸ List.reverse_perm all
  have hnames : ∀ other ∈ [("later", laterValue.reading)], other.1 ∉ own.map StatedMember.name := by
    rw [List.forall_mem_singleton]
    decide
  exact .object hown hnames (List.forall_mem_singleton.mpr hlater) hmembers

/-- A document in reverse order, with white space around it and another member in it, and this
document without the empty list of detections. -/
theorem additions_and_omissions_read_alike_clean :
    (Verdict.codec.encode cleanVerdict).StatedBy largerDocument.reading ∧
    Spells largerDocument.reading (" " ++ largerDocument.render ++ "\n").toList ∧
    Verdict.codec.read (" " ++ largerDocument.render ++ "\n") = .ok cleanVerdict ∧
    Relation.ReflTransGen Verdict.codec.Omits largerDocument.reading smallerDocument.reading ∧
    Spells smallerDocument.reading smallerDocument.render.toList ∧
    Verdict.codec.read (" " ++ largerDocument.render ++ "\n") =
      Verdict.codec.read smallerDocument.render := by
  have hlarger : largerDocument.IsPlain := by
    simp [largerDocument, ownMembers, isPlain_laterValue, IsPlain, MembersPlain, ArePlain, IsWord]
  have hsmaller : smallerDocument.IsPlain := by
    simp [smallerDocument, ownMembers, isPlain_laterValue, IsPlain, MembersPlain, IsWord]
  have hspells : Spells largerDocument.reading (" " ++ largerDocument.render ++ "\n").toList := by
    rw [String.toList_append, String.toList_append, List.append_assoc]
    exact .spaced (by decide) hlarger.spells_render (by decide)
  have homits : Verdict.codec.Omits largerDocument.reading smallerDocument.reading := by
    let field : Field Verdict (List Detection) :=
      { name := "foundMalwares", codec := .list Detection.codec, get := Verdict.detections,
        absent := .always [] }
    refine @Codec.Omits.member _ _ _ _ _ _ _ field [] (.array [] none)
      [(.ok "later", laterValue.reading)] (memberReadings ownMembers) none ?_ rfl rfl ?_
    · exact .tail (by decide) <| .tail (by decide) <| .tail (by decide) <| .tail (by decide) <|
        .tail (by decide) .head
    · rw [List.forall_mem_append, List.forall_mem_singleton]
      simp [ownMembers, memberReadings, field]
  have hsingle := Relation.ReflTransGen.single homits
  exact ⟨statedBy_largerDocument, hspells,
    additions_and_omissions_read_alike.1 _ _ _ statedBy_largerDocument hspells, hsingle,
    hsmaller.spells_render,
    additions_and_omissions_read_alike.2.2.1 _ _ _ _ hsingle hspells hsmaller.spells_render⟩

end MalwareScan
