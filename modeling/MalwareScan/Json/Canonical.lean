import MalwareScan.Json.Reading

/-!
# Documents as values

A document is taken as a value of its own, whatever its shape. Its objects are maps: the members
stand in the order of their names, and of two members with one name the last one counts. A
document that is not JSON, has a number out of range, or nests arrays and objects too deeply is no
value.
-/

namespace MalwareScan.Json

/-- How deeply arrays and objects may be nested. -/
def maxDepth : Nat := 127

/-- The members of a map with `value` under `name`. -/
def insertMember (name : String) (value : Json) : List (String × Json) → List (String × Json)
  | [] => [(name, value)]
  | (other, old) :: members =>
    if name < other then (name, value) :: (other, old) :: members
    else if name = other then (name, value) :: members
    else (other, old) :: insertMember name value members

mutual

/-- The value of a reading, in which arrays and objects may be nested `depth` times. -/
def Reading.value? (depth : Nat) : Reading → Option Json
  | .null => some .null
  | .boolean b => some (.boolean b)
  | .number n => if n.isUsable then some (.number n) else none
  | .string (.ok text) => some (.string text)
  | .array items none => if depth = 0 then none else (itemValues? (depth - 1) items).map .array
  | .object members none =>
    if depth = 0 then none else (memberValues? (depth - 1) members []).map .object
  | _ => none

/-- The values of the items of an array. -/
def itemValues? (depth : Nat) : List Reading → Option (List Json)
  | [] => some []
  | item :: items => do
    let value ← item.value? depth
    let values ← itemValues? depth items
    some (value :: values)

/-- The map that the members of an object make of `map`. -/
def memberValues? (depth : Nat) :
    List (Except Breach String × Reading) → List (String × Json) → Option (List (String × Json))
  | [], map => some map
  | (.ok name, item) :: members, map => do
    let value ← item.value? depth
    memberValues? depth members (insertMember name value map)
  | (.error _, _) :: _, _ => none

end

/-- The value of a whole document. -/
def ofText? (text : String) : Option Json :=
  let document := Document.ofText text
  if document.trailing then none else document.value.value? maxDepth

end MalwareScan.Json
