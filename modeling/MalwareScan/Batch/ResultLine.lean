import MalwareScan.Json.Canonical

/-!
# Result lines

What the scanner says about a target is printed on one line: an object with the target's name, the
time that the scan took, and the scanner's document. Its members stand in the order of their names.
-/

namespace MalwareScan

/-- What is printed for a scan. -/
structure ResultLine where
  target : String
  elapsedMillis : UInt64
  document : String

namespace ResultLine

/-- The line as a value, if the document is one. -/
def value? (line : ResultLine) : Option Json :=
  (Json.ofText? line.document).map fun result =>
    .object [
      ("elapsedMs", .number (.integer line.elapsedMillis.toNat)),
      ("result", result),
      ("target", .string line.target)]

/-- The text of the line. A document that is no value is printed as it stands. -/
def text (line : ResultLine) : String :=
  match line.value? with
  | some value => value.render
  | none => line.document

end ResultLine

end MalwareScan
