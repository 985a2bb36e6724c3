import MalwareScan.Encoding.Hex

/-!
# Tables of code points

Properties of characters come as tables of code points. A table is written in lines of entries
with blanks between them; an entry is a code point in hexadecimal digits, or the first and the
last one of a range with a hyphen between them.
-/

namespace MalwareScan.Text

/-- The number that hexadecimal digits denote. -/
def hexNumber (digits : List Char) : Nat :=
  digits.foldl (fun n c => 16 * n + (Hex.value? c).getD 0) 0

/-- The code points from `first` to `last`. -/
structure CodeRange where
  first : Nat
  last : Nat
deriving DecidableEq, Repr

/-- The range that an entry denotes. -/
def CodeRange.ofEntry (entry : List Char) : CodeRange :=
  let first := hexNumber (entry.takeWhile (· ≠ '-'))
  match entry.dropWhile (· ≠ '-') with
  | _ :: last => ⟨first, hexNumber last⟩
  | [] => ⟨first, first⟩

/-- The code point is in the range. -/
def CodeRange.contains (range : CodeRange) (n : Nat) : Bool :=
  range.first ≤ n && n ≤ range.last

/-- The entries of a table. -/
def entries (lines : List String) : List (List Char) :=
  lines.flatMap fun line => line.toList.splitOn ' '

/-- The ranges of a table. -/
def codeRanges (lines : List String) : List CodeRange :=
  (entries lines).map CodeRange.ofEntry

/-- The character is in one of the ranges. -/
def isIn (ranges : List CodeRange) (c : Char) : Bool :=
  ranges.any fun range => range.contains c.toNat

end MalwareScan.Text
