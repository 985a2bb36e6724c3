import MalwareScan.Toml.Scalar

/-!
# Settings files

A settings file is a sequence of lines: headers, which say what table the next lines belong to, and
keys with their values. Comments begin with a number sign. `readDocument` gives the root table.
-/

namespace MalwareScan.Toml

open Scanner

/-- The most parts of a dotted key, and the most levels of a value. -/
def maxDepth : Nat := 79

/-! ## Between values -/

/-- The blanks within a line. -/
def skipBlanks : Scanner Unit := do
  let _ ← run isBlankInLine

/-- The end of a line. -/
def lineEnd : Scanner Unit := fun cs => (afterLineEnd? cs).map ((), ·)

/-- The rest of a line that holds nothing more: blanks, a comment, and the end of the line or of the
file. -/
def lineRest : Scanner Unit := do
  skipBlanks
  if ← eats '#' then
    let _ ← run isLineChar
  if (← peek).isSome then lineEnd

/-- Blanks, line ends and comments. -/
def skipFiller (inComment : Bool) : List Char → List Char
  | '\n' :: rest => skipFiller false rest
  | '\r' :: '\n' :: rest => skipFiller false rest
  | c :: rest =>
    if inComment then if isLineChar c then skipFiller true rest else c :: rest
    else if isBlankInLine c then skipFiller false rest
    else if c = '#' then skipFiller true rest
    else c :: rest
  | [] => []

/-- Reads blanks, line ends and comments. -/
def filler : Scanner Unit := fun cs => some ((), skipFiller false cs)

/-! ## Keys -/

/-- A character of a key without quotes. -/
def isKeyChar (c : Char) : Bool :=
  c.isAlphanum || c = '_' || c = '-'

/-- One part of a key. -/
def keyPart : Scanner String :=
  quotedLine <|> do
    let chars ← run isKeyChar
    guard !chars.isEmpty
    return String.ofList chars

/-- The parts of a key: at most `fuel`. -/
def keyParts : Nat → Scanner (List String)
  | 0 => failure
  | fuel + 1 => do
    skipBlanks
    let part ← keyPart
    skipBlanks
    if ← eats '.' then return part :: (← keyParts fuel)
    return [part]

/-- A key: the tables it leads through, and its last part. -/
def key : Scanner (List String × String) := do
  let parts ← keyParts maxDepth
  match parts.reverse with
  | last :: path => return (path.reverse, last)
  | [] => failure

/-! ## Values -/

/-- The items of an array after its opening bracket: at most `fuel`. -/
def arrayItems (item : Scanner Node) : Nat → Scanner (List Node)
  | 0 => failure
  | fuel + 1 => do
    filler
    if ← eats ']' then return []
    let first ← item
    filler
    if ← eats ',' then return first :: (← arrayItems item fuel)
    eat ']'
    return [first]

/-- The members of an inline table, of which there is at least one: at most `fuel`. -/
def inlineMembers (item : Scanner Node) : Nat → Table → Scanner Table
  | 0, _ => failure
  | fuel + 1, table => do
    let (path, last) ← key
    eat '='
    skipBlanks
    let node ← item
    skipBlanks
    let table ← ofOption (assign path last node table)
    if ← eats ',' then inlineMembers item fuel table
    else
      eat '\x7d'
      return table

/-- An inline table after its opening brace. -/
def inlineTable (item : Scanner Node) : Scanner Node := do
  skipBlanks
  if ← eats '\x7d' then return .table .inline []
  let (_, members) ← inlineMembers item (← remaining) (.header, [])
  return .table .inline members

/-- A value with at most `depth` levels of arrays and inline tables. -/
def value : Nat → Scanner Node
  | 0 => scalar
  | depth + 1 => do
    if ← eats '[' then return .array (← arrayItems (value depth) (← remaining))
    else if ← eats '\x7b' then inlineTable (value depth)
    else scalar

/-! ## Lines -/

/-- The tables read so far, and the path of the one that the next lines belong to. -/
structure Draft where
  root : Table
  here : List String

/-- A header. -/
def header (draft : Draft) : Scanner Draft := do
  eat '['
  let isItem ← eats '['
  let (path, last) ← key
  eat ']'
  if isItem then eat ']'
  lineRest
  let root ← ofOption ((if isItem then openItem else openTable) path last draft.root)
  return ⟨root, path ++ [last]⟩

/-- A key and its value. -/
def setting (draft : Draft) : Scanner Draft := do
  let (path, last) ← key
  eat '='
  skipBlanks
  let node ← value maxDepth
  lineRest
  let root ← ofOption (edit .implied (assign path last node) draft.here draft.root)
  return { draft with root }

/-- The lines of a file: at most `fuel`. -/
def lines : Nat → Draft → Scanner Draft
  | 0, _ => failure
  | fuel + 1, draft => do
    skipBlanks
    match ← peek with
    | none => return draft
    | some '[' => lines fuel (← header draft)
    | some c =>
      if c = '#' ∨ c = '\n' ∨ c = '\r' then
        lineRest
        lines fuel draft
      else lines fuel (← setting draft)

/-- The text without a byte order mark. -/
def withoutMark : List Char → List Char
  | '\uFEFF' :: rest => rest
  | cs => cs

/-- The root table of a settings file, if the file is well formed. -/
def readDocument (text : String) : Option Node := do
  let cs := withoutMark text.toList
  let (draft, _) ← lines (cs.length + 1) ⟨(.header, []), []⟩ cs
  return .table draft.root.1 draft.root.2

end MalwareScan.Toml
