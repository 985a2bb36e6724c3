import MalwareScan.Json.Number

/-!
# JSON values and their compact text

`Json` is a JSON value; the members of an object keep their order and may repeat. `Json.chars`
writes it without any white space. Inside strings only quotes, backslashes and control characters
are escaped, so a written value has no control character at all.
-/

namespace MalwareScan

open Json (Number)

/-- A JSON value. -/
inductive Json where
  | null
  | boolean (value : Bool)
  | number (value : Number)
  | string (text : String)
  | array (items : List Json)
  | object (members : List (String × Json))

namespace Json

/-- The last two hexadecimal digits of the code point of a control character. -/
def controlDigits (c : Char) : List Char :=
  [Nat.digitChar (c.toNat / 16), Nat.digitChar (c.toNat % 16)]

/-- One character of a string. -/
def escape (c : Char) : List Char :=
  if c = '"' then ['\\', '"']
  else if c = '\\' then ['\\', '\\']
  else if c = '\x08' then ['\\', 'b']
  else if c = '\t' then ['\\', 't']
  else if c = '\n' then ['\\', 'n']
  else if c = '\x0c' then ['\\', 'f']
  else if c = '\r' then ['\\', 'r']
  else if c.toNat < 32 then ['\\', 'u', '0', '0'] ++ controlDigits c
  else [c]

/-- A string between quotes. -/
def quoted (s : String) : List Char :=
  '"' :: (s.toList.flatMap escape ++ ['"'])

/-- The names of the two truth values. -/
def booleanChars (b : Bool) : List Char :=
  if b then ['t', 'r', 'u', 'e'] else ['f', 'a', 'l', 's', 'e']

mutual

/-- The compact text of a value. -/
def chars : Json → List Char
  | null => ['n', 'u', 'l', 'l']
  | boolean b => booleanChars b
  | number n => n.chars
  | string s => quoted s
  | array [] => ['[', ']']
  | array (item :: items) => '[' :: (item.chars ++ (moreItems items ++ [']']))
  | object [] => ['\x7b', '\x7d']
  | object ((key, value) :: members) =>
    '\x7b' :: (quoted key ++ ':' :: (value.chars ++ (moreMembers members ++ ['\x7d'])))

/-- The items after the first one, each behind a comma. -/
def moreItems : List Json → List Char
  | [] => []
  | item :: items => ',' :: (item.chars ++ moreItems items)

/-- The members after the first one, each behind a comma. -/
def moreMembers : List (String × Json) → List Char
  | [] => []
  | (key, value) :: members => ',' :: (quoted key ++ ':' :: (value.chars ++ moreMembers members))

end

/-- The compact text of a value. -/
def render (value : Json) : String :=
  String.ofList value.chars

end Json

end MalwareScan
