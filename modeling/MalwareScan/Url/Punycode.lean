/-!
# Punycode

The ASCII form of a label with characters beyond ASCII. The ASCII characters of the label stand
first, then a hyphen, and then for each other character, in the order of their code points, how far
it lies from the one before it, in a number system with 36 digits whose widths adapt to what was
written so far.
-/

namespace MalwareScan.Url.Punycode

/-- The digit of a value below 36. -/
def digit (n : Nat) : Char :=
  if n < 26 then Char.ofNat (97 + n) else Char.ofNat (22 + n)

/-- The value of a digit. -/
def value? (c : Char) : Option Nat :=
  let n := c.toNat
  if 97 ≤ n && n ≤ 122 then some (n - 97)
  else if 65 ≤ n && n ≤ 90 then some (n - 65)
  else if 48 ≤ n && n ≤ 57 then some (n - 22)
  else none

/-- The threshold of the digit at position `k`, a multiple of 36. -/
def threshold (k bias : Nat) : Nat :=
  if k ≤ bias then 1 else if bias + 26 ≤ k then 26 else k - bias

/-- How often `delta` is divided before it is small, counted in steps of 36, and what is left. -/
def shrink : Nat → Nat → Nat → Nat × Nat
  | 0, delta, k => (delta, k)
  | fuel + 1, delta, k => if 455 < delta then shrink fuel (delta / 35) (k + 36) else (delta, k)

/-- The bias after a distance was written as number `points` of its label. -/
def adapt (delta points : Nat) (first : Bool) : Nat :=
  let delta := if first then delta / 700 else delta / 2
  let (delta, k) := shrink 64 (delta + delta / points) 0
  k + 36 * delta / (delta + 38)

/-- The digits of a distance. -/
def writeDigits (bias : Nat) : Nat → Nat → Nat → List Char
  | 0, _, _ => []
  | fuel + 1, k, q =>
    let t := threshold k bias
    if q < t then [digit q]
    else digit (t + (q - t) % (36 - t)) :: writeDigits bias fuel (k + 36) ((q - t) / (36 - t))

/-- The state of the writer: the code point it has reached, the distance since the last character,
the bias, and how many characters are written. -/
structure Writer where
  point : Nat
  delta : Nat
  bias : Nat
  written : Nat

/-- Passes over the characters of the label once, and writes those at the writer's code point. -/
def pass (basic : Nat) : List Char → Writer → List Char × Writer
  | [], w => ([], w)
  | c :: cs, w =>
    if c.toNat < w.point then pass basic cs { w with delta := w.delta + 1 }
    else if c.toNat = w.point then
      let out := writeDigits w.bias 64 36 w.delta
      let (rest, w) := pass basic cs
        { w with bias := adapt w.delta (w.written + 1) (w.written == basic)
                 delta := 0, written := w.written + 1 }
      (out ++ rest, w)
    else pass basic cs w

/-- The least code point of the label that is not below `point`. -/
def nextPoint (label : List Char) (point : Nat) : Option Nat :=
  (label.map Char.toNat).foldl (fun (best : Option Nat) n =>
    if n < point then best
    else match best with
      | some b => some (min b n)
      | none => some n) none

/-- The passes over the label, one for each code point. -/
def passes (label : List Char) (basic : Nat) : Nat → Writer → List Char
  | 0, _ => []
  | fuel + 1, w =>
    match nextPoint label w.point with
    | none => []
    | some point =>
      let w := { w with delta := w.delta + (point - w.point) * (w.written + 1), point }
      let (out, w) := pass basic label w
      out ++ passes label basic fuel { w with delta := w.delta + 1, point := point + 1 }

/-- The punycode of a label. -/
def encode (label : List Char) : List Char :=
  let basic := label.filter fun c => c.toNat < 128
  let front := if basic.isEmpty then [] else basic ++ ['-']
  front ++ passes label basic.length label.length
    { point := 128, delta := 0, bias := 72, written := basic.length }

/-- Reads the digits of a distance and adds it to `i`. -/
def readDigits (bias : Nat) : List Char → (k i weight : Nat) → Option (Nat × List Char)
  | [], _, _, _ => none
  | c :: cs, k, i, weight => do
    let d ← value? c
    let i := i + d * weight
    let t := threshold k bias
    if d < t then some (i, cs) else readDigits bias cs (k + 36) i (weight * (36 - t))

/-- Reads the characters beyond ASCII into the label. -/
def readPoints : Nat → List Char → (point i bias : Nat) → (first : Bool) → List Char →
    Option (List Char)
  | _, [], _, _, _, _, label => some label
  | 0, _ :: _, _, _, _, _, _ => none
  | fuel + 1, cs, point, i, bias, first, label => do
    let (next, cs) ← readDigits bias cs 36 i 1
    let size := label.length + 1
    let bias := adapt (next - i) size first
    let point := point + next / size
    let position := next % size
    if 0x10FFFF < point ∨ (0xD800 ≤ point ∧ point ≤ 0xDFFF) then none
    else
      readPoints fuel cs point (position + 1) bias false
        (label.take position ++ Char.ofNat point :: label.drop position)

/-- The label whose punycode is `cs`. A hyphen stands only behind ASCII characters. -/
def decode? (cs : List Char) : Option (List Char) :=
  let reversed := cs.reverse
  let tail := (reversed.takeWhile (· != '-')).reverse
  let front := (reversed.drop (tail.length + 1)).reverse
  if cs.head? = some '-' ∧ front.isEmpty then none
  else if front.any (fun c => 127 < c.toNat) then none
  else readPoints cs.length tail 128 0 72 true front

end MalwareScan.Url.Punycode
