import MalwareScan.Encoding.Hex
import MalwareScan.Toml.Scanner

/-!
# Quoted text in settings

A text stands between double quotes, where a backslash begins an escape, or between single quotes,
where nothing is special. Between three quotes it may have several lines; a line end right after the
opening quotes is not part of it, and every other one counts as one line feed.
-/

namespace MalwareScan.Toml

/-- A character that may stand in a line of a settings file: any but the control characters other
than the tab. -/
def isLineChar (c : Char) : Bool :=
  c = '\t' || (32 ≤ c.toNat && c.toNat ≠ 127)

/-- The blanks within a line. -/
def isBlankInLine (c : Char) : Bool :=
  c = ' ' || c = '\t'

/-- The text after a line end, if it begins with one. -/
def afterLineEnd? : List Char → Option (List Char)
  | '\n' :: rest => some rest
  | '\r' :: '\n' :: rest => some rest
  | _ => none

/-- Only blanks stand before the next line end. -/
def isBlankToLineEnd (cs : List Char) : Bool :=
  (afterLineEnd? (cs.dropWhile isBlankInLine)).isSome

/-- The character that a backslash and `c` stand for. -/
def simpleEscape? (c : Char) : Option Char :=
  if c = 'b' then some '\x08'
  else if c = 't' then some '\t'
  else if c = 'n' then some '\n'
  else if c = 'f' then some '\x0c'
  else if c = 'r' then some '\r'
  else if c = '"' ∨ c = '\\' then some c
  else none

/-- The character whose number the hexadecimal digits state. -/
def charOfHex? (digits : List Char) : Option Char := do
  let n ← digits.foldlM (fun n c => (Hex.value? c).map (16 * n + ·)) 0
  if n.isValidChar then some (Char.ofNat n) else none

/-- The characters of a text, last one first, and what follows its closing quotes. -/
abbrev Quotation := Option (List Char × List Char)

/-- A text in one line between double quotes. -/
def basicLine (taken : List Char) : List Char → Quotation
  | [] => none
  | '"' :: rest => some (taken, rest)
  | '\\' :: 'u' :: a :: b :: c :: d :: rest =>
    match charOfHex? [a, b, c, d] with
    | some x => basicLine (x :: taken) rest
    | none => none
  | '\\' :: 'U' :: a :: b :: c :: d :: e :: f :: g :: h :: rest =>
    match charOfHex? [a, b, c, d, e, f, g, h] with
    | some x => basicLine (x :: taken) rest
    | none => none
  | '\\' :: e :: rest =>
    match simpleEscape? e with
    | some x => basicLine (x :: taken) rest
    | none => none
  | c :: rest => if isLineChar c then basicLine (c :: taken) rest else none

/-- A text in one line between single quotes. -/
def literalLine (taken : List Char) : List Char → Quotation
  | [] => none
  | '\'' :: rest => some (taken, rest)
  | c :: rest => if isLineChar c then literalLine (c :: taken) rest else none

/-- A text of several lines between double quotes. Up to two quotes may stand before the closing
ones. After a backslash at the end of a line, `joining`, blanks and line ends are left out. -/
def basicLines (joining : Bool) (taken : List Char) : List Char → Quotation
  | [] => none
  | '"' :: '"' :: '"' :: '"' :: '"' :: rest => some ('"' :: '"' :: taken, rest)
  | '"' :: '"' :: '"' :: '"' :: rest => some ('"' :: taken, rest)
  | '"' :: '"' :: '"' :: rest => some (taken, rest)
  | '\n' :: rest => basicLines joining (if joining then taken else '\n' :: taken) rest
  | '\r' :: '\n' :: rest => basicLines joining (if joining then taken else '\n' :: taken) rest
  | '\\' :: 'u' :: a :: b :: c :: d :: rest =>
    match charOfHex? [a, b, c, d] with
    | some x => basicLines false (x :: taken) rest
    | none => none
  | '\\' :: 'U' :: a :: b :: c :: d :: e :: f :: g :: h :: rest =>
    match charOfHex? [a, b, c, d, e, f, g, h] with
    | some x => basicLines false (x :: taken) rest
    | none => none
  | '\\' :: '\n' :: rest => basicLines true taken rest
  | '\\' :: '\r' :: '\n' :: rest => basicLines true taken rest
  | '\\' :: e :: rest =>
    match simpleEscape? e with
    | some x => basicLines false (x :: taken) rest
    | none =>
      if isBlankInLine e && isBlankToLineEnd rest then basicLines true taken rest else none
  | c :: rest =>
    if joining && isBlankInLine c then basicLines true taken rest
    else if isLineChar c then basicLines false (c :: taken) rest
    else none

/-- A text of several lines between single quotes. Up to two quotes may stand before the closing
ones. -/
def literalLines (taken : List Char) : List Char → Quotation
  | [] => none
  | '\'' :: '\'' :: '\'' :: '\'' :: '\'' :: rest => some ('\'' :: '\'' :: taken, rest)
  | '\'' :: '\'' :: '\'' :: '\'' :: rest => some ('\'' :: taken, rest)
  | '\'' :: '\'' :: '\'' :: rest => some (taken, rest)
  | '\n' :: rest => literalLines ('\n' :: taken) rest
  | '\r' :: '\n' :: rest => literalLines ('\n' :: taken) rest
  | c :: rest => if isLineChar c then literalLines (c :: taken) rest else none

/-- The text without a line end at its beginning. -/
def skipLineEnd (cs : List Char) : List Char :=
  (afterLineEnd? cs).getD cs

/-- A quotation in reading order. -/
def Quotation.text (quotation : Quotation) : Option (String × List Char) :=
  quotation.map fun (taken, rest) => (String.ofList taken.reverse, rest)

/-- A quoted text of one line, as it may stand for a key. -/
def quotedLine : Scanner String
  | '"' :: rest => (basicLine [] rest).text
  | '\'' :: rest => (literalLine [] rest).text
  | _ => none

/-- A quoted text. -/
def quotedText : Scanner String
  | '"' :: '"' :: '"' :: rest => (basicLines false [] (skipLineEnd rest)).text
  | '\'' :: '\'' :: '\'' :: rest => (literalLines [] (skipLineEnd rest)).text
  | cs => quotedLine cs

end MalwareScan.Toml
