/-!
# Numerals

Whole numbers in decimal digits. A plus sign may stand in front; a minus sign only where negative
numbers are allowed.
-/

namespace MalwareScan.Text

/-- The value of decimal digits. -/
def digitsValue (digits : List Char) : Nat :=
  digits.foldl (fun n c => 10 * n + (c.toNat - 48)) 0

/-- The number of at least one digit and nothing else. -/
def digits? (cs : List Char) : Option Nat :=
  if cs.isEmpty ∨ cs.any (fun c => !c.isDigit) then none else some (digitsValue cs)

/-- A number from 0 to `max`. -/
def unsigned? (max : Nat) (cs : List Char) : Option Nat :=
  let digits := match cs with
    | '+' :: rest => rest
    | cs => cs
  (digits? digits).filter fun n => n ≤ max

/-- A number from `min` to `max`, of which `min` is not positive. -/
def signed? (min max : Int) (cs : List Char) : Option Int :=
  match cs with
  | '-' :: rest => ((digits? rest).map fun n => -(n : Int)).filter fun n => min ≤ n
  | cs => ((unsigned? max.toNat cs).map fun n => (n : Int)).filter fun n => n ≤ max

/-- The greatest word of 64 bits. -/
def maxUInt64 : Nat := 18446744073709551615

/-- A word of 16 bits. -/
def uint16? (s : String) : Option UInt16 :=
  (unsigned? 65535 s.toList).map UInt16.ofNat

/-- A word of 64 bits. -/
def uint64? (s : String) : Option UInt64 :=
  (unsigned? maxUInt64 s.toList).map UInt64.ofNat

/-- A signed number of 64 bits. -/
def int64? (s : String) : Option Int :=
  signed? (-9223372036854775808) 9223372036854775807 s.toList

end MalwareScan.Text
