/-!
# Shortest decimals

A binary floating-point number stands for every real number that rounds to it. Its shortest decimal
is the decimal with the fewest digits among those reals; of two with equally few digits it is the
one nearer to the number, and of two equally near ones the one whose last digit is even.
-/

namespace MalwareScan.Decimal

/-- A fraction of natural numbers. -/
structure Fraction where
  num : Nat
  den : Nat

/-- `num * 2 ^ exponent` as a fraction. -/
def Fraction.scaled (num : Nat) (exponent : Int) : Fraction :=
  if 0 ≤ exponent then ⟨num * Nat.pow 2 exponent.toNat, 1⟩
  else ⟨num, Nat.pow 2 (-exponent).toNat⟩

/-- The reals that round to one floating-point number: all between `low` and `high`, the two ends
included when `closed`. The three fractions share one denominator. -/
structure Rounding where
  low : Nat
  value : Nat
  high : Nat
  den : Nat
  closed : Bool

/-- The rounding interval of the positive number `mantissa * 2 ^ exponent`. The gap below it is half
as wide when the mantissa is the least of its binade. -/
def Rounding.of (mantissa : Nat) (exponent : Int) (leastOfBinade : Bool) : Rounding :=
  let unit := Fraction.scaled 1 (exponent - 2)
  { low := (4 * mantissa - if leastOfBinade then 1 else 2) * unit.num
    value := 4 * mantissa * unit.num
    high := (4 * mantissa + 2) * unit.num
    den := unit.den
    closed := mantissa % 2 == 0 }

/-- Whether the fraction `num / den` lies in the interval. -/
def Rounding.contains (r : Rounding) (x : Fraction) : Bool :=
  let lower := r.low * x.den
  let upper := r.high * x.den
  let point := x.num * r.den
  if r.closed then lower ≤ point && point ≤ upper else lower < point && point < upper

/-- The decimal `digits * 10 ^ exponent`. -/
structure Digits where
  digits : Nat
  exponent : Int

/-- The value of a decimal. -/
def Digits.toFraction (d : Digits) : Fraction :=
  if 0 ≤ d.exponent then ⟨d.digits * Nat.pow 10 d.exponent.toNat, 1⟩
  else ⟨d.digits, Nat.pow 10 (-d.exponent).toNat⟩

/-- How many digits stand before the point of `num / den`; for a fraction below one tenth, minus the
number of zeros right after the point. -/
def pointPosition (num den : Nat) : Int :=
  if den ≤ num then (Nat.toDigits 10 (num / den)).length
  else
    match (List.range 400).find? fun zeros => den ≤ num * Nat.pow 10 (zeros + 1) with
    | some zeros => -zeros
    | none => -400

/-- The shortest of the decimals with `count` digits in the interval, if there is one: of the two
neighbours of the value on their grid the nearer one, and the even one of two equally near. -/
def onGrid (r : Rounding) (count : Nat) : Option Digits :=
  let exponent := pointPosition r.value r.den - count
  let step := Digits.toFraction ⟨1, exponent⟩
  let below := r.value * step.den / (r.den * step.num)
  let rest := r.value * step.den % (r.den * step.num)
  let lower : Digits := ⟨below, exponent⟩
  let upper : Digits := ⟨below + 1, exponent⟩
  match r.contains lower.toFraction, r.contains upper.toFraction with
  | true, false => some lower
  | false, true => some upper
  | false, false => none
  | true, true =>
    let twice := 2 * rest
    let whole := r.den * step.num
    if twice < whole ∨ (twice = whole ∧ below % 2 = 0) then some lower else some upper

/-- The decimal without zeros at its end. -/
def stripZeros : Nat → Digits → Digits
  | 0, d => d
  | fuel + 1, d =>
    if d.digits ≠ 0 ∧ d.digits % 10 = 0 then stripZeros fuel ⟨d.digits / 10, d.exponent + 1⟩ else d

/-- The shortest decimal of an interval. Seventeen digits always suffice. -/
def Rounding.shortest (r : Rounding) : Digits :=
  match (List.range 17).findSome? fun n => onGrid r (n + 1) with
  | some d => stripZeros 17 d
  | none => ⟨0, 0⟩

/-- The shortest decimal of the absolute value of a finite number. -/
def shortest (x : Float) : Digits :=
  let bits : Nat := x.toBits.toNat % Nat.pow 2 63
  let biased : Nat := bits / Nat.pow 2 52
  let fraction : Nat := bits % Nat.pow 2 52
  if bits = 0 then ⟨0, 0⟩
  else if biased = 0 then (Rounding.of fraction (-1074) false).shortest
  else (Rounding.of (Nat.pow 2 52 + fraction) (biased - 1075)
    (fraction == 0 && 1 < biased)).shortest

end MalwareScan.Decimal
