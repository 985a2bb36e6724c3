import MalwareScan.Text.Numeral
import MalwareScan.Toml.Node
import MalwareScan.Toml.Quotation

/-!
# Numbers, dates and truth values in settings

Whole numbers fit 64 bits with a sign; they are written in decimal digits, or without a sign in
hexadecimal, octal or binary ones. A number with a point or an exponent is a floating-point number.
Underscores may stand between digits. Dates and times must exist in the calendar.
-/

namespace MalwareScan.Toml

open Scanner Text

/-! ## Numbers -/

/-- At least one digit; an underscore may stand between two digits, and is left out. -/
def digitRun (isDigit : Char → Bool) : Scanner (List Char) := do
  let run ← run fun c => isDigit c || c = '_'
  let groups := run.splitOn '_'
  guard (groups.all fun group => !group.isEmpty)
  return groups.flatten

/-- The least whole number. -/
def leastInteger : Int := -9223372036854775808

/-- The greatest whole number. -/
def greatestInteger : Int := 9223372036854775807

/-- A whole number in range. -/
def integer (value : Int) : Scanner Node := do
  guard (leastInteger ≤ value ∧ value ≤ greatestInteger)
  return .integer value

/-- A whole number after `0` and `letter`, in digits to the base `base`. -/
def basedInteger (letter : Char) (base : Nat) : Scanner Node := do
  eatAll ['0', letter]
  let digits ← digitRun fun c => ((Hex.value? c).filter (· < base)).isSome
  integer (digits.foldl (fun n c => base * n + (Hex.value? c).getD 0) 0 : Nat)

/-- The sign of a number: whether it is negative. -/
def sign : Scanner Bool := do
  if ← eats '-' then return true
  let _ ← eats '+'
  return false

/-- The least number that no floating-point number is near to. -/
def floatBound : Nat := Nat.pow 2 1024 - Nat.pow 2 970

/-- `digits * 10 ^ exponent` is too great for a floating-point number. Far from the bound the number
of digits decides. -/
def isTooGreat (digits : List Char) (exponent : Int) : Bool :=
  let n := digitsValue digits
  let places := ((digits.dropWhile (· = '0')).length : Int) + exponent
  if n = 0 ∨ places < 300 then false
  else if 320 < places then true
  else if exponent < 0 then floatBound * Nat.pow 10 (-exponent).toNat ≤ n
  else floatBound ≤ n * Nat.pow 10 exponent.toNat

/-- The fraction of a number, if it has one. -/
def fraction : Scanner (Option (List Char)) := do
  if ← eats '.' then return some (← digitRun Char.isDigit)
  return none

/-- The exponent of a number, if it has one. -/
def exponent : Scanner (Option Int) := do
  match ← peek with
  | some 'e' | some 'E' => do
    let _ ← oneOf ['e', 'E']
    let negative ← sign
    let value : Int := digitsValue (← digitRun Char.isDigit)
    return some (if negative then -value else value)
  | _ => return none

/-- A decimal number. No zero stands before another digit of its integer part. -/
def decimalNumber : Scanner Node := do
  let negative ← sign
  let whole ← digitRun Char.isDigit
  guard (whole.head? ≠ some '0' ∨ whole.length = 1)
  let fraction ← fraction
  let exponent ← exponent
  match fraction, exponent with
  | none, none =>
    let value : Int := digitsValue whole
    integer (if negative then -value else value)
  | _, _ =>
    let fraction := fraction.getD []
    guard (negative || !isTooGreat (whole ++ fraction) (exponent.getD 0 - fraction.length))
    return .float (String.ofList (whole ++ '.' :: fraction))

/-- An infinity, or the value that is not a number. -/
def specialNumber : Scanner Node := do
  let _ ← sign
  (do eatAll ['i', 'n', 'f']; return .float "inf") <|>
    (do eatAll ['n', 'a', 'n']; return .float "nan")

/-! ## Dates -/

/-- A number of `width` digits from `least` to `greatest`. -/
def dateNumber (width least greatest : Nat) : Scanner Nat := do
  let n := digitsValue (← exactly width Char.isDigit)
  guard (least ≤ n ∧ n ≤ greatest)
  return n

/-- How many days a month has. -/
def monthDays (year month : Nat) : Nat :=
  if month = 2 then
    if year % 4 = 0 ∧ (year % 100 ≠ 0 ∨ year % 400 = 0) then 29 else 28
  else if month = 4 ∨ month = 6 ∨ month = 9 ∨ month = 11 then 30
  else 31

/-- A day. -/
def day : Scanner Unit := do
  let year ← dateNumber 4 0 9999
  eat '-'
  let month ← dateNumber 2 1 12
  eat '-'
  let _ ← dateNumber 2 1 (monthDays year month)

/-- A time of day, with or without a fraction of the second. -/
def timeOfDay : Scanner Unit := do
  let _ ← dateNumber 2 0 23
  eat ':'
  let _ ← dateNumber 2 0 59
  eat ':'
  let _ ← dateNumber 2 0 60
  let _ ← optional do
    eat '.'
    let _ ← exactly 1 Char.isDigit
    let _ ← run Char.isDigit

/-- The distance of a time from universal time. -/
def offset : Scanner Unit :=
  (do let _ ← oneOf ['Z', 'z']) <|> do
    let _ ← oneOf ['+', '-']
    let _ ← dateNumber 2 0 23
    eat ':'
    let _ ← dateNumber 2 0 59

/-- A day, a time, or both. -/
def date : Scanner Node := do
  let text ← textOf <| (do
      day
      let _ ← optional do
        let _ ← oneOf ['T', 't', ' ']
        timeOfDay
        let _ ← optional offset) <|>
    timeOfDay
  return .date text

/-! ## Scalars -/

/-- A truth value. -/
def truth : Scanner Node :=
  (do eatAll ['t', 'r', 'u', 'e']; return .boolean true) <|>
    (do eatAll ['f', 'a', 'l', 's', 'e']; return .boolean false)

/-- A value that holds no other values. -/
def scalar : Scanner Node :=
  (do return .string (← quotedText)) <|> truth <|> date <|> specialNumber <|>
    basedInteger 'x' 16 <|> basedInteger 'o' 8 <|> basedInteger 'b' 2 <|> decimalNumber

end MalwareScan.Toml
