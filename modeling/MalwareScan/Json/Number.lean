import MalwareScan.Decimal.Shortest

/-!
# JSON numbers

A number written without point and exponent that fits 64 bits is an integer and keeps its exact
value. Every other number, negative zero among them, is a decimal: sign, significant digits and a
power of ten. A decimal is turned into a floating-point number only where one is asked for.
-/

namespace MalwareScan.Json

/-- `digits * 10 ^ exponent`, with its sign. -/
structure Decimal where
  negative : Bool
  digits : Nat
  exponent : Int
deriving DecidableEq, Repr

/-- A number as a document states it. -/
inductive Number where
  | integer (value : Int)
  | decimal (value : Decimal)
deriving DecidableEq, Repr

/-- The largest number of significant digits' value that is kept. -/
def maxSignificand : Nat := 18446744073709551615

/-- The greatest exponent of a power of ten that is a floating-point number. -/
def maxPower : Nat := 308

/-- `x * 10 ^ exponent`, unless it is out of range. Steps below the least power divide in turn. -/
def scaleDown (x : Float) (exponent : Nat) : Float :=
  if _h : exponent ≤ maxPower then x / Float.ofScientific 1 false exponent
  else if x == 0 then x
  else scaleDown (x / Float.ofScientific 1 false maxPower) (exponent - maxPower)
termination_by exponent
decreasing_by
  have : maxPower = 308 := rfl
  omega

namespace Decimal

/-- The floating-point number of a decimal, computed by one rounded product or quotient of the
digits and a power of ten; absent when it is out of range. -/
def toFloat? (d : Decimal) : Option Float :=
  let x := d.digits.toUInt64.toFloat
  let magnitude : Option Float :=
    if d.exponent < 0 then some (scaleDown x (-d.exponent).toNat)
    else if d.exponent.toNat ≤ maxPower then
      let y := x * Float.ofScientific 1 false d.exponent.toNat
      if y.isInf then none else some y
    else if x == 0 then some x
    else none
  magnitude.map fun y => if d.negative then -y else y

end Decimal

/-- The digits of a natural number. -/
def natChars (n : Nat) : List Char :=
  Nat.toDigits 10 n

/-- The digits of an integer, with a minus sign if it is negative. -/
def intChars (n : Int) : List Char :=
  if n < 0 then '-' :: natChars n.natAbs else natChars n.natAbs

/-- How the texts of floating-point numbers are laid out: from `leastPoint` up to `greatestPoint`
digits before the point a number is written without an exponent. -/
structure FloatLayout where
  leastPoint : Int
  greatestPoint : Int
  exponentDigits : Nat

/-- Without an exponent between 0.00001 and 9999999999999999.0, otherwise with a signed exponent of
at least two digits. -/
def floatLayout : FloatLayout :=
  { leastPoint := -4, greatestPoint := 16, exponentDigits := 2 }

/-- `cs` with zeros in front up to `width` characters. -/
def padZeros (width : Nat) (cs : List Char) : List Char :=
  List.replicate (width - cs.length) '0' ++ cs

/-- The text of `d`. A number without an exponent always has a point. -/
def FloatLayout.text (layout : FloatLayout) (d : MalwareScan.Decimal.Digits) : List Char :=
  let digits := natChars d.digits
  let point := digits.length + d.exponent
  if d.digits = 0 then ['0', '.', '0']
  else if 0 < point ∧ point ≤ layout.greatestPoint then
    if 0 ≤ d.exponent then digits ++ List.replicate d.exponent.toNat '0' ++ ['.', '0']
    else digits.take point.toNat ++ '.' :: digits.drop point.toNat
  else if layout.leastPoint ≤ point ∧ point ≤ 0 then
    ['0', '.'] ++ List.replicate (-point).toNat '0' ++ digits
  else
    let fraction := match digits with
      | first :: second :: rest => first :: '.' :: second :: rest
      | other => other
    let sign := if 1 ≤ point then '+' else '-'
    fraction ++ 'e' :: sign :: padZeros layout.exponentDigits (natChars (point - 1).natAbs)

/-- The shortest text of a finite floating-point number. -/
def floatChars (x : Float) : List Char :=
  let negative := x.toBits.toNat / Nat.pow 2 63 == 1
  let text := floatLayout.text (MalwareScan.Decimal.shortest x)
  if negative then '-' :: text else text

namespace Number

/-- The number with the given sign and integer digits: an integer if it fits 64 bits. -/
def ofInteger (negative : Bool) (digits : Nat) : Option Number :=
  if negative then
    if digits ≠ 0 ∧ digits ≤ 9223372036854775808 then some (.integer (-digits)) else none
  else if digits ≤ maxSignificand then some (.integer digits)
  else none

/-- The text of a number. A decimal that is out of range has no text of its own. -/
def chars : Number → List Char
  | .integer n => intChars n
  | .decimal d =>
    match d.toFloat? with
    | some x => floatChars x
    | none => ['n', 'u', 'l', 'l']

/-- Whether the number can be used: every integer, and each decimal in range. -/
def isUsable : Number → Bool
  | .integer _ => true
  | .decimal d => d.toFloat?.isSome

end Number

end MalwareScan.Json
