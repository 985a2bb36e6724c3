import MalwareScan.Text.Visible

/-!
# Quoted text

Paths and values stand in messages between double quotes. Inside them a quote and a backslash take
a backslash, five controls have a short name, and every other character that does not show as
itself is written as its code point in braces.
-/

namespace MalwareScan.Text

/-- The digits of `n` in base 16, lower case. -/
def hexDigits (n : Nat) : List Char :=
  Nat.toDigits 16 n

/-- One character of quoted text. -/
def quoteChar (c : Char) : List Char :=
  if c = '"' then ['\\', '"']
  else if c = '\\' then ['\\', '\\']
  else if c = '\n' then ['\\', 'n']
  else if c = '\r' then ['\\', 'r']
  else if c = '\t' then ['\\', 't']
  else if c = '\x00' then ['\\', '0']
  else if isVisible c then [c]
  else ['\\', 'u', '\x7b'] ++ hexDigits c.toNat ++ ['\x7d']

/-- `s` between double quotes. -/
def quote (s : String) : String :=
  String.ofList ('"' :: (s.toList.flatMap quoteChar ++ ['"']))

/-- One character of a quoted path: an apostrophe takes a backslash too. -/
def quotePathChar (c : Char) : List Char :=
  if c = '\'' then ['\\', '\''] else quoteChar c

/-- A path between double quotes. -/
def quotePath (path : String) : String :=
  String.ofList ('"' :: (path.toList.flatMap quotePathChar ++ ['"']))

end MalwareScan.Text
