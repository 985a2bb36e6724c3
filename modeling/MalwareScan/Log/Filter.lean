import MalwareScan.Text.Alphanumeric
import MalwareScan.Text.Blank
import MalwareScan.Text.Numeral

/-!
# Log filters

A filter says which log lines are written. It is a list of directives between commas; an empty one
says nothing. A directive is a level, the name of a target, or a target with a span in brackets, the
fields of the span in braces and a level after an equals sign.

`isFilter` tells whether a text is a filter.
-/

namespace MalwareScan.Log

/-- The names of levels. -/
def levelNames : List String := ["error", "warn", "info", "debug", "trace", "off"]

/-- A text is a level: nothing, a name in any case, or a number from 0 to 5. -/
def isLevel (text : List Char) : Bool :=
  text.isEmpty || (Text.unsigned? 5 text).isSome ||
    levelNames.contains (String.ofList (text.map Char.toLower))

/-- What is being read in a directive. The parts whose text matters know at which byte they begin.
-/
inductive Part where
  | start
  | name
  | span
  | field (since : Nat)
  | fields
  | target
  | level (since : Nat)
deriving DecidableEq

/-- A directive may begin with a letter, a number, or one of three signs. -/
def beginsName (c : Char) : Bool :=
  c = '-' || c = ':' || c = '_' || Text.isAlphanumeric c

/-- The part after the character `c`, whose bytes begin at position `i`. -/
def Part.next? (i : Nat) (c : Char) : Part → Option Part
  | start =>
    if c = '[' then some span
    else if beginsName c then some name
    else none
  | name =>
    if c = '=' then some (level (i + 1))
    else if c = '[' then some span
    else some name
  | span =>
    if c = ']' then some target
    else if c = '\x7b' then some (field (i + 1))
    else some span
  | field since =>
    if c = '\x7d' then (if since = i then none else some fields) else some (field since)
  | fields => if c = ']' then some target else none
  | target => if c = '=' then some (level (i + 1)) else none
  | level since => some (level since)

/-- The part that a directive ends in. -/
def lastPart? (i : Nat) (part : Part) : List Char → Option Part
  | [] => some part
  | c :: cs => (part.next? i c).bind fun part => lastPart? (i + c.utf8Size) part cs

/-- The characters after the first `n` bytes. -/
def dropBytes (n : Nat) : List Char → List Char
  | [] => []
  | c :: cs => if n = 0 then c :: cs else dropBytes (n - c.utf8Size) cs

/-- A text without commas is a directive. Blanks around it do not count, except that a level is
taken from the text with the blanks. -/
def isDirective (text : List Char) : Bool :=
  match lastPart? 0 .start (Text.trimChars text) with
  | some .name => true
  | some .target => true
  | some (.level since) => isLevel (dropBytes since text)
  | _ => false

/-- A text is a filter. -/
def isFilter (text : String) : Bool :=
  (text.toList.splitOn ',').all fun part => part.isEmpty || isDirective part

end MalwareScan.Log
