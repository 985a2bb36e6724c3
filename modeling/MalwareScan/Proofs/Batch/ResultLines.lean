import MalwareScan.Batch.ResultLine
import MalwareScan.Proofs.Json.Canonical
import MalwareScan.Proofs.Json.Lines

/-!
# Result lines are lines

What is printed for a target is one line, and its reader finds the target's name, the time and the
scanner's document in it: no name and no document can end the line or put a member into it. The
document is taken as a value, so the line says what the document says, not how it is written. The
line is nested one level more than the document; a document that is nested as deeply as may be has
a line that the same reader refuses (`deep_lines_are_refused`).
-/

namespace MalwareScan.ResultLine

open Json

/-- The members of a line as they are read, in which `result` stands for the document. -/
def reading (line : ResultLine) (result : Json.Reading) : Json.Reading :=
  .object [(.ok "elapsedMs", .number (.integer line.elapsedMillis.toNat)), (.ok "result", result),
    (.ok "target", .string (.ok line.target))] none

/-- The value of a line, in which `value` is that of the document. -/
def stating (line : ResultLine) (value : Json) : Json :=
  .object [("elapsedMs", .number (.integer line.elapsedMillis.toNat)), ("result", value),
    ("target", .string line.target)]

variable {line : ResultLine} {value : Json}

/-- The line is the text of this value. -/
theorem text_eq (h : Json.ofText? line.document = some value) :
    line.text = (line.stating value).render := by
  rw [text, value?, h]
  rfl

/-- A line is plain if the document is. -/
theorem isPlain_stating (line : ResultLine) (h : value.IsPlain) : (line.stating value).IsPlain := by
  have htime : IsWord line.elapsedMillis.toNat := by
    have hlt : line.elapsedMillis.toNat < 18446744073709551616 := line.elapsedMillis.toNat_lt
    exact ⟨by omega, by omega⟩
  exact ⟨htime, h, trivial, trivial⟩

/-- The members of a line are in the order of their names. -/
theorem isSorted_stating (line : ResultLine) (h : value.IsSorted) :
    (line.stating value).IsSorted := by
  have hfirst : "elapsedMs" < "result" := by decide
  have hsecond : "result" < "target" := by decide
  refine .object ?_ ?_
  · simp only [IsMap, List.pairwise_cons, List.forall_mem_cons]
    exact ⟨⟨hfirst, hfirst.trans hsecond, List.forall_mem_nil _⟩, ⟨hsecond, List.forall_mem_nil _⟩,
      List.forall_mem_nil _, .nil⟩
  · simp only [List.forall_mem_cons]
    exact ⟨.number _, h, .string _, List.forall_mem_nil _⟩

/-- A line is nested one level deeper than the document. -/
theorem depth_stating (line : ResultLine) (value : Json) :
    (line.stating value).depth = value.depth + 1 := by
  simp [stating, depth, membersDepth]

/-- Whatever the target is called, however long the scan took and whatever the document says, as
long as it can be read and its numbers are integers of 64 bits: the line has no control character,
and with that no line break. It is the text of an object with these three members and no other, of
which `result` has the value that the document has, and only that. Whoever reads the line as a
value finds it if one level of nesting more than the document has is allowed; the reader that the
document was read with finds it exactly if the document is nested less deeply than may be, and
finds nothing otherwise. -/
theorem lines_state_documents (line : ResultLine) (value : Json)
    (hvalue : Json.ofText? line.document = some value) (hplain : value.IsPlain) :
    (∀ c ∈ line.text.toList, 32 ≤ c.toNat) ∧
    (∃ document result : Json.Reading,
      Document.ofText line.document = ⟨document, false⟩ ∧ document.Denotes value ∧
      Spells (line.reading result) line.text.toList ∧ result.Denotes value ∧
      (∀ other, result.Denotes other → other = value) ∧
      ∀ limit, (Document.ofText line.text).value.value? limit = some (line.stating value) ↔
        value.depth < limit) ∧
    (Json.ofText? line.text = some (line.stating value) ↔ value.depth < maxDepth) ∧
    (Json.ofText? line.text = none ↔ maxDepth ≤ value.depth) := by
  obtain ⟨document, hdocument, hdenotes⟩ := denotes_of_ofText? hvalue
  have hline := isPlain_stating line hplain
  have hsorted := isSorted_stating line hdenotes.isSorted
  have hback := ofText?_render hsorted hline
  rw [depth_stating] at hback
  rw [text_eq hvalue, hback]
  refine ⟨fun c hc => ?_, ⟨document, value.reading, hdocument, hdenotes, hline.spells_render,
    hdenotes.isSorted.denotes, fun other hother => hother.unique hdenotes.isSorted.denotes,
    fun limit => ?_⟩, ?_, ?_⟩
  · rw [render, String.toList_ofList] at hc
    exact not_lt.mp (hline.noControl c hc)
  · rw [ofText_render hline, hsorted.isFoundWithin hline limit, depth_stating,
      Option.ite_none_right_eq_some, eq_self, and_true, Nat.succ_le_iff]
  · rw [Option.ite_none_right_eq_some, eq_self, and_true, Nat.succ_le_iff]
  · rw [ite_eq_right_iff, imp_iff_not (Option.some_ne_none _), Nat.succ_le_iff, not_lt]

/-- A document that names one member twice and holds a line break. -/
def doubled : Json :=
  .object [("b", .number (.integer 1)), ("a", .string "\n"), ("b", .array [])]

/-- Its value. -/
def single : Json :=
  .object [("a", .string "\n"), ("b", .array [])]

/-- A target whose name would end the line and the object, with this document on a line of its
own. -/
def brokenLine : ResultLine where
  target := "x\n\"\x7d"
  elapsedMillis := 42
  document := "\n" ++ doubled.render ++ "\n"

/-- The document has the value. -/
theorem ofText?_brokenLine : Json.ofText? brokenLine.document = some single := by
  have hplain : doubled.IsPlain := by
    simp [doubled, IsPlain, MembersPlain, ArePlain, IsWord]
  have hspells : Spells doubled.reading brokenLine.document.toList := by
    rw [brokenLine, String.toList_append, String.toList_append, List.append_assoc]
    exact .spaced (by decide) hplain.spells_render (by decide)
  have hless : "a" < "b" := by decide
  rw [ofText?, hspells.ofText]
  simp [doubled, single, Json.reading, memberReadings, itemReadings, Reading.value?, memberValues?,
    itemValues?, insertMember, Number.isUsable, maxDepth, hless, hless.asymm]

/-- The line of this target. -/
theorem lines_state_documents_doubled :
    Json.ofText? brokenLine.document = some single ∧ single.IsPlain ∧
    (∀ c ∈ brokenLine.text.toList, 32 ≤ c.toNat) ∧
    Json.ofText? brokenLine.text = some (brokenLine.stating single) := by
  have hplain : single.IsPlain := by
    simp [single, IsPlain, MembersPlain, ArePlain]
  obtain ⟨hcontrol, -, hread, -⟩ :=
    lines_state_documents brokenLine single ofText?_brokenLine hplain
  exact ⟨ofText?_brokenLine, hplain, hcontrol, hread.2 (by decide)⟩

/-- Arrays in an array, so many. -/
def nested : Nat → Json
  | 0 => .array []
  | n + 1 => .array [nested n]

/-- Arrays in an array have no numbers, are sorted, and are nested one level more than there are. -/
theorem nested_spec (n : Nat) :
    (nested n).IsPlain ∧ (nested n).IsSorted ∧ (nested n).depth = n + 1 := by
  induction n with
  | zero => exact ⟨trivial, .array (List.forall_mem_nil _), rfl⟩
  | succ n ih =>
      obtain ⟨hplain, hsorted, hdepth⟩ := ih
      refine ⟨⟨hplain, trivial⟩, .array (List.forall_mem_singleton.2 hsorted), ?_⟩
      simp [nested, depth, itemsDepth, hdepth]

/-- A document of arrays that are nested as deeply as they may be. -/
def deepLine : ResultLine where
  target := "f.txt"
  elapsedMillis := 0
  document := (nested 126).render

/-- The line of such a document is not read again. -/
theorem deep_lines_are_refused :
    ¬ ∀ (line : ResultLine) (value : Json), Json.ofText? line.document = some value →
      value.IsPlain → Json.ofText? line.text = some (line.stating value) := by
  intro h
  obtain ⟨hplain, hsorted, hdepth⟩ := nested_spec 126
  have hvalue : Json.ofText? deepLine.document = some (nested 126) := by
    rw [deepLine, ofText?_render hsorted hplain, hdepth]
    rfl
  have hline := h deepLine (nested 126) hvalue hplain
  rw [text_eq hvalue, ofText?_render (isSorted_stating deepLine hsorted)
    (isPlain_stating deepLine hplain), depth_stating, hdepth] at hline
  cases hline

end MalwareScan.ResultLine
