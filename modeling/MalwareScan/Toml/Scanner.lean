/-!
# Scanners

A scanner reads the beginning of a text, or fails. What it leaves is the rest.
-/

namespace MalwareScan.Toml

/-- A reader of the beginning of a text. -/
abbrev Scanner (α : Type) := StateT (List Char) Option α

namespace Scanner

/-- The next character, which is left in the text. -/
def peek : Scanner (Option Char) := fun cs => some (cs.head?, cs)

/-- How many characters are left. -/
def remaining : Scanner Nat := fun cs => some (cs.length, cs)

/-- The next character is `c`. -/
def eat (c : Char) : Scanner Unit
  | d :: rest => if c = d then some ((), rest) else none
  | [] => none

/-- Whether the next character is `c`, which is then read. -/
def eats (c : Char) : Scanner Bool
  | d :: rest => if c = d then some (true, rest) else some (false, d :: rest)
  | [] => some (false, [])

/-- The next characters are those of `word`. -/
def eatAll (word : List Char) : Scanner Unit := fun cs =>
  if word.isPrefixOf cs then some ((), cs.drop word.length) else none

/-- The longest run of characters that satisfy `p`. -/
def run (p : Char → Bool) : Scanner (List Char) := fun cs =>
  some (cs.takeWhile p, cs.dropWhile p)

/-- The next `n` characters, all of which satisfy `p`. -/
def exactly (n : Nat) (p : Char → Bool) : Scanner (List Char) := fun cs =>
  let taken := cs.take n
  if taken.length = n ∧ taken.all p then some (taken, cs.drop n) else none

/-- One character of `choices`. -/
def oneOf (choices : List Char) : Scanner Char
  | c :: rest => if choices.contains c then some (c, rest) else none
  | [] => none

/-- The value of a computation that may fail. -/
def ofOption {α : Type} (x : Option α) : Scanner α := fun cs => x.map (·, cs)

/-- The text that `scanner` reads. -/
def textOf {α : Type} (scanner : Scanner α) : Scanner String := fun cs =>
  match scanner cs with
  | some (_, rest) => some (String.ofList (cs.take (cs.length - rest.length)), rest)
  | none => none

end Scanner

end MalwareScan.Toml
