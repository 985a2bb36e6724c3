import MalwareScan.Json.Fault
import MalwareScan.Json.Value
import MalwareScan.Encoding.Hex
import MalwareScan.Text.Numeral

/-!
# Reading JSON text

A `Reading` is what can be learned from a text up to the point where it stops being JSON. A text may
be used or skipped, and the two notice different breaches: a string that is skipped may hold
surrogates that are no characters, and a number that is skipped may be out of range. So a reading
keeps both answers, and whoever walks it in document order meets the first fault that concerns it.

`Document.ofText` reads a whole text.
-/

namespace MalwareScan.Json

/-- The point where a text stops being JSON: what a reader notices who uses the value that stands
there, and what one notices who skips it. -/
structure Cut where
  used : Breach
  skipped : Breach
deriving DecidableEq, Repr

/-- The same breach for both kinds of reader. -/
def Cut.both (breach : Breach) : Cut := ⟨breach, breach⟩

/-- A value as far as the text is well formed. An array or an object that is cut holds what stands
before the cut; if the cut is inside an item or a member, that one is the last. A sequence is an
array that was read to its end before anyone looked at it, so that a record may leave items of it
over. -/
inductive Reading where
  | null
  | boolean (value : Bool)
  | number (value : Number)
  | string (text : Except Breach String)
  | array (items : List Reading) (cut : Option Cut)
  | object (members : List (Except Breach String × Reading)) (cut : Option Cut)
  | sequence (items : List Reading)
  | broken (cut : Cut)

/-- Where the text of a value stops being JSON, if it does. -/
def Reading.cut? : Reading → Option Cut
  | .array _ cut => cut
  | .object _ cut => cut
  | .broken cut => some cut
  | _ => none

/-- The text after a value, or the cut that ends it. -/
abbrev Rest := Except Cut (List Char)

/-- The white space between tokens. -/
def isSpace (c : Char) : Bool :=
  c = ' ' || c = '\n' || c = '\t' || c = '\r'

/-- The text from its first character that is not white space. -/
def skipSpace (cs : List Char) : List Char :=
  cs.dropWhile isSpace

/-- The text is cut at a character, or at its end. -/
def cutAt : List Char → Cut
  | [] => .both .truncated
  | _ :: _ => .both .malformed

/-! ## Words and numbers -/

/-- The text after the rest of a word such as `null`. -/
def readWord : List Char → List Char → Rest
  | [], rest => .ok rest
  | _ :: _, [] => .error (.both .truncated)
  | w :: word, c :: rest => if c = w then readWord word rest else .error (.both .malformed)

/-- The longest beginning of `digits`, after the digits of `start`, whose value is kept exactly, and
the digits after it. -/
def significant (start : Nat) : List Char → Nat × List Char
  | [] => (start, [])
  | c :: digits =>
    let next := 10 * start + (c.toNat - 48)
    if next ≤ maxSignificand then significant next digits else (start, c :: digits)

/-- The number with the given parts. Digits that no longer fit the significand count as places
before the point, and not at all after it. -/
def Number.ofParts (negative : Bool) (whole : List Char) (fraction : Option (List Char))
    (exponent : Option Int) : Number :=
  match Number.ofInteger negative (Text.digitsValue whole), fraction, exponent with
  | some n, none, none => n
  | _, _, _ =>
    let (front, dropped) := significant 0 whole
    let fraction := fraction.getD []
    let (digits, unused) := significant front fraction
    let places : Int := fraction.length - unused.length
    .decimal ⟨negative, digits, dropped.length - places + exponent.getD 0⟩

/-- A number is cut where a digit is needed. At the end of the text a reader who uses the number
misses the digit, and one who skips it sees a malformed number. -/
def digitMissing : List Char → Cut
  | [] => ⟨.truncated, .malformed⟩
  | _ :: _ => .both .malformed

/-- The integer part of a number: no zero stands before another digit. -/
def readWhole (cs : List Char) : Except Cut (List Char × List Char) :=
  let digits := cs.takeWhile Char.isDigit
  match digits with
  | [] => .error (digitMissing cs)
  | '0' :: _ :: _ => .error (.both .malformed)
  | _ => .ok (digits, cs.dropWhile Char.isDigit)

/-- The digits after a point, if there is one. -/
def readFraction : List Char → Except Cut (Option (List Char) × List Char)
  | '.' :: cs =>
    match cs.takeWhile Char.isDigit with
    | [] => .error (digitMissing cs)
    | digits => .ok (some digits, cs.dropWhile Char.isDigit)
  | cs => .ok (none, cs)

/-- The sign of an exponent. -/
def readSign : List Char → Bool × List Char
  | '+' :: cs => (false, cs)
  | '-' :: cs => (true, cs)
  | cs => (false, cs)

/-- The exponent, if there is one. -/
def readExponent : List Char → Except Cut (Option Int × List Char)
  | c :: cs =>
    if c = 'e' ∨ c = 'E' then
      let (negative, cs) := readSign cs
      match cs.takeWhile Char.isDigit with
      | [] => .error (digitMissing cs)
      | digits =>
        let value : Int := Text.digitsValue digits
        .ok (some (if negative then -value else value), cs.dropWhile Char.isDigit)
    else .ok (none, c :: cs)
  | [] => .ok (none, [])

/-- The number after its sign. -/
def readNumber (negative : Bool) (cs : List Char) : Reading × Rest :=
  let parts : Except Cut (Number × List Char) := do
    let (whole, cs) ← readWhole cs
    let (fraction, cs) ← readFraction cs
    let (exponent, cs) ← readExponent cs
    .ok (Number.ofParts negative whole fraction exponent, cs)
  match parts with
  | .ok (n, rest) => (.number n, .ok rest)
  | .error cut => (.broken cut, .error cut)

/-! ## Strings -/

/-- A part of a string: a character, or a UTF-16 unit given by its number. -/
inductive Piece where
  | char (c : Char)
  | unit (n : Nat)

/-- The unit that four hexadecimal digits denote. -/
def hexUnit? (a b c d : Char) : Option Nat := do
  let a ← Hex.value? a
  let b ← Hex.value? b
  let c ← Hex.value? c
  let d ← Hex.value? d
  some (a * 4096 + b * 256 + c * 16 + d)

/-- What is wrong with an escaped unit that is no four digits: the text must go on for four bytes
before they are looked at. -/
def unitBreach (cs : List Char) : Breach :=
  if (cs.take 4).foldr (fun c size => c.utf8Size + size) 0 < 4 then .truncated else .malformed

/-- The character that a backslash and `c` stand for. -/
def simpleEscape? (c : Char) : Option Char :=
  if c = '"' ∨ c = '\\' ∨ c = '/' then some c
  else if c = 'b' then some '\x08'
  else if c = 'f' then some '\x0c'
  else if c = 'n' then some '\n'
  else if c = 'r' then some '\r'
  else if c = 't' then some '\t'
  else none

/-- The pieces of a string, last one first, and the text after its closing quote. -/
def readPieces (pieces : List Piece) : List Char → List Piece × Except Breach (List Char)
  | [] => (pieces, .error .truncated)
  | '"' :: cs => (pieces, .ok cs)
  | ['\\'] => (pieces, .error .truncated)
  | '\\' :: 'u' :: a :: b :: c :: d :: cs =>
    match hexUnit? a b c d with
    | some n => readPieces (.unit n :: pieces) cs
    | none => (pieces, .error .malformed)
  | '\\' :: 'u' :: cs => (pieces, .error (unitBreach cs))
  | '\\' :: e :: cs =>
    match simpleEscape? e with
    | some c => readPieces (.char c :: pieces) cs
    | none => (pieces, .error .malformed)
  | c :: cs =>
    if c.toNat < 32 then (pieces, .error .malformed) else readPieces (.char c :: pieces) cs

/-- The units that begin a pair. -/
def isLead (n : Nat) : Bool := 0xD800 ≤ n && n ≤ 0xDBFF

/-- The units that end a pair. -/
def isTrail (n : Nat) : Bool := 0xDC00 ≤ n && n ≤ 0xDFFF

/-- The character of a pair. -/
def pairChar (lead trail : Nat) : Char :=
  Char.ofNat (0x10000 + (lead - 0xD800) * 0x400 + (trail - 0xDC00))

/-- The characters joined so far, last one first, and a unit that waits for the end of its pair. -/
structure Joined where
  chars : List Char
  lead : Option Nat

/-- One more piece. A unit of a pair must not stand alone. -/
def Joined.add (joined : Joined) : Piece → Option Joined
  | .char c =>
    match joined.lead with
    | none => some ⟨c :: joined.chars, none⟩
    | some _ => none
  | .unit n =>
    match joined.lead with
    | none =>
      if isLead n then some ⟨joined.chars, some n⟩
      else if isTrail n then none
      else some ⟨Char.ofNat n :: joined.chars, none⟩
    | some lead =>
      if isTrail n then some ⟨pairChar lead n :: joined.chars, none⟩ else none

/-- The text of the pieces of a string that is cut as `ending` says, or closed. -/
def joinPieces (pieces : List Piece) (ending : Option Breach) : Except Breach String :=
  match pieces.foldlM Joined.add ⟨[], none⟩ with
  | none => .error .malformed
  | some joined =>
    match joined.lead, ending with
    | some _, ending => .error (ending.getD .malformed)
    | none, some breach => .error breach
    | none, none => .ok (String.ofList joined.chars.reverse)

/-- A string after its opening quote. -/
def readString (cs : List Char) : Except Cut (Except Breach String × List Char) :=
  let (pieces, ending) := readPieces [] cs
  let pieces := pieces.reverse
  match ending with
  | .ok rest => .ok (joinPieces pieces none, rest)
  | .error breach =>
    match joinPieces pieces (some breach) with
    | .ok _ => .error (.both breach)
    | .error used => .error ⟨used, breach⟩

/-! ## Values -/

/-- `value`, and the text after it or its cut. -/
def Reading.complete (value : Reading) (rest : Rest) : Reading × Rest :=
  match rest with
  | .ok rest => (value, .ok rest)
  | .error cut => (.broken cut, .error cut)

/-- The cut of a rest, if it is one. -/
def Rest.cut? : Rest → Option Cut
  | .ok _ => none
  | .error cut => some cut

mutual

/-- The value at the beginning of a text. -/
def readValue : Nat → List Char → Reading × Rest
  | 0, _ => (.broken (.both .malformed), .error (.both .malformed))
  | fuel + 1, cs =>
    match skipSpace cs with
    | [] => (.broken (.both .truncated), .error (.both .truncated))
    | 'n' :: cs => Reading.complete .null (readWord ['u', 'l', 'l'] cs)
    | 't' :: cs => Reading.complete (.boolean true) (readWord ['r', 'u', 'e'] cs)
    | 'f' :: cs => Reading.complete (.boolean false) (readWord ['a', 'l', 's', 'e'] cs)
    | '-' :: cs => readNumber true cs
    | '"' :: cs =>
      match readString cs with
      | .ok (text, rest) => (.string text, .ok rest)
      | .error cut => (.broken cut, .error cut)
    | '[' :: cs =>
      match skipSpace cs with
      | [] => (.array [] (some (.both .truncated)), .error (.both .truncated))
      | ']' :: rest => (.array [] none, .ok rest)
      | cs =>
        let (items, rest) := readItems fuel cs
        (.array items rest.cut?, rest)
    | '\x7b' :: cs =>
      match skipSpace cs with
      | [] => (.object [] (some (.both .truncated)), .error (.both .truncated))
      | '\x7d' :: rest => (.object [] none, .ok rest)
      | cs =>
        let (members, rest) := readMembers fuel cs
        (.object members rest.cut?, rest)
    | c :: cs =>
      if c.isDigit then readNumber false (c :: cs)
      else (.broken (.both .malformed), .error (.both .malformed))

/-- One item of an array and those after it, up to the closing bracket. -/
def readItems : Nat → List Char → List Reading × Rest
  | 0, _ => ([], .error (.both .malformed))
  | fuel + 1, cs =>
    match readValue fuel cs with
    | (item, .error cut) => ([item], .error cut)
    | (item, .ok rest) =>
      match skipSpace rest with
      | ']' :: rest => ([item], .ok rest)
      | ',' :: rest =>
        let (items, rest) := readItems fuel rest
        (item :: items, rest)
      | other => ([item], .error (cutAt other))

/-- One member of an object and those after it, up to the closing brace. A key without a colon is a
member whose value is cut. -/
def readMembers : Nat → List Char → List (Except Breach String × Reading) × Rest
  | 0, _ => ([], .error (.both .malformed))
  | fuel + 1, cs =>
    match skipSpace cs with
    | '"' :: cs =>
      match readString cs with
      | .error cut => ([], .error cut)
      | .ok (key, rest) =>
        match skipSpace rest with
        | ':' :: rest =>
          match readValue fuel rest with
          | (value, .error cut) => ([(key, value)], .error cut)
          | (value, .ok rest) =>
            match skipSpace rest with
            | '\x7d' :: rest => ([(key, value)], .ok rest)
            | ',' :: rest =>
              let (members, rest) := readMembers fuel rest
              ((key, value) :: members, rest)
            | other => ([(key, value)], .error (cutAt other))
        | other => ([(key, .broken (cutAt other))], .error (cutAt other))
    | other => ([], .error (cutAt other))

end

/-- What stands in a whole text: one value, and whether anything but white space follows it. -/
structure Document where
  value : Reading
  trailing : Bool

/-- The reading of a text. Each character costs at most two steps. -/
def Document.ofText (text : String) : Document :=
  let cs := text.toList
  let (value, rest) := readValue (2 * cs.length + 2) cs
  let trailing := match rest with
    | .ok rest => !(skipSpace rest).isEmpty
    | .error _ => false
  ⟨value, trailing⟩

end MalwareScan.Json
