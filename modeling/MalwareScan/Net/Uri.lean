/-!
# Addresses in URIs

Which texts may follow the scheme of a URI: an authority, and behind it a path with a query. The
authority ends before the first slash, question mark or number sign; a fragment is not looked at.
-/

namespace MalwareScan.Net

/-- The most bytes of a URI. -/
def maxUriLength : Nat := 65534

/-- A character that ends an authority. -/
def endsAuthority (c : Char) : Bool :=
  c = '/' || c = '?' || c = '#'

/-- A character that may stand in an authority, besides the percent sign. -/
def isAuthorityChar (c : Char) : Bool :=
  c.isAlphanum || "-._~:[]@!$&'()*+,;=".toList.contains c

/-- What matters of the part of an authority that was read: its colons, brackets and percent signs
since the last `@`, and whether it ends in one. A closing bracket makes colons and percent signs
before it part of an address. -/
structure AuthorityShape where
  colons : Nat := 0
  opened : Bool := false
  closed : Bool := false
  percent : Bool := false
  endsInAt : Bool := false
deriving DecidableEq

/-- The most colons that are read before a bracket or an `@` explains them. -/
def maxColons : Nat := 8

namespace AuthorityShape

/-- The shape after one more character. -/
def add (shape : AuthorityShape) (c : Char) : Option AuthorityShape :=
  let shape := { shape with endsInAt := c = '@' }
  if c = ':' then
    if maxColons ≤ shape.colons then none else some { shape with colons := shape.colons + 1 }
  else if c = '[' then
    if shape.percent ∨ shape.opened then none else some { shape with opened := true }
  else if c = ']' then
    if ¬ shape.opened ∨ shape.closed then none
    else some { shape with closed := true, colons := 0, percent := false }
  else if c = '@' then some { shape with colons := 0, percent := false }
  else if c = '%' then some { shape with percent := true }
  else if isAuthorityChar c then some shape
  else none

/-- The shape of a whole authority: brackets come in pairs, at most one colon stands before the
port, and neither a percent sign nor an `@` is left over. -/
def isComplete (shape : AuthorityShape) : Bool :=
  shape.opened == shape.closed && shape.colons ≤ 1 && !shape.endsInAt && !shape.percent

end AuthorityShape

/-- A text that may stand as authority. -/
def isAuthority (cs : List Char) : Bool :=
  !cs.isEmpty && ((cs.foldlM AuthorityShape.add {}).map (·.isComplete)).getD false

/-- A character that may stand in a path. -/
def isPathChar (c : Char) : Bool :=
  let n := c.toNat
  n = 0x21 || n = 0x22 || (0x24 ≤ n && n ≤ 0x3B) || n = 0x3D || (0x40 ≤ n && n ≤ 0x5F) ||
    0x61 ≤ n

/-- A character that may stand in a query. -/
def isQueryChar (c : Char) : Bool :=
  let n := c.toNat
  n = 0x21 || (0x24 ≤ n && n ≤ 0x3B) || n = 0x3D || 0x3F ≤ n

/-- A text that may follow an authority. -/
def isPathAndQuery (cs : List Char) : Bool :=
  let cs := cs.takeWhile (· ≠ '#')
  let query := (cs.dropWhile (· ≠ '?')).drop 1
  (cs.takeWhile (· ≠ '?')).all isPathChar && query.all isQueryChar

/-- `scheme://rest` is a URI with an authority. -/
def isUri (scheme rest : String) : Bool :=
  let cs := rest.toList
  let authority := cs.takeWhile fun c => !endsAuthority c
  scheme.utf8ByteSize + 3 + rest.utf8ByteSize ≤ maxUriLength && isAuthority authority &&
    isPathAndQuery (cs.drop authority.length)

/-! ## Names of servers -/

/-- The most characters of one label of a domain name. -/
def maxLabelLength : Nat := 63

/-- The most characters of a domain name. -/
def maxNameLength : Nat := 253

/-- A label of a domain name. -/
def isLabel (cs : List Char) : Bool :=
  !cs.isEmpty && cs.length ≤ maxLabelLength &&
    cs.all (fun c => c.isAlphanum || c = '-' || c = '_') &&
    cs.head? != some '-' && cs.getLast? != some '-'

/-- A domain name: labels between dots, of which the last is not a number. One dot may follow. -/
def isDomainName (cs : List Char) : Bool :=
  let labels := (cs.splitOn '.').reverse
  let labels := match labels with
    | [] :: rest => rest
    | labels => labels
  cs.length ≤ maxNameLength && !labels.isEmpty && labels.all isLabel &&
    !(labels.headD []).all Char.isDigit

end MalwareScan.Net
