import MalwareScan.Json.Reading

/-!
# Trees of settings

A settings file states a tree of tables. A table is opened by a header, written inline, or made on
the way to another one: by a longer header or by a dotted key. A table can be opened once, an inline
table is closed from the start, and a key is given once.

`Node.reading` shows a tree to the readers of records.
-/

namespace MalwareScan.Toml

open Json (Reading)

/-- How a table came to be. -/
inductive Origin where
  | header
  | implied
  | dotted
  | inline
deriving DecidableEq, Repr

/-- A value in a settings file. Of floating-point numbers and dates the text is kept. -/
inductive Node where
  | string (text : String)
  | integer (value : Int)
  | float (text : String)
  | boolean (value : Bool)
  | date (text : String)
  | array (items : List Node)
  | table (origin : Origin) (members : List (String × Node))
  | tables (items : List (List (String × Node)))

/-- The members of a table. -/
abbrev Members := List (String × Node)

/-- The members with `node` under `key`. -/
def put (key : String) (node : Node) : Members → Members
  | [] => [(key, node)]
  | (k, n) :: members => if k = key then (k, node) :: members else (k, n) :: put key node members

/-- A table with its members, as it is changed. -/
abbrev Table := Origin × Members

/-- The table, in which `change` was applied to the table that `path` leads to. Missing tables on
the way are made. A dotted key does not lead into tables that have a header. -/
def edit (made : Origin) (change : Table → Option Table) : List String → Table → Option Table
  | [], table => change table
  | key :: path, (origin, members) =>
    match members.lookup key with
    | none => do
      let (made, inner) ← edit made change path (made, [])
      some (origin, put key (.table made inner) members)
    | some (.table kind inner) =>
      if kind = .inline ∨ (made = .dotted ∧ kind = .header) then none
      else do
        let (kind, inner) ← edit made change path (kind, inner)
        some (origin, put key (.table kind inner) members)
    | some (.tables items) =>
      match items.reverse with
      | [] => none
      | last :: earlier => do
        let (_, last) ← edit made change path (.header, last)
        some (origin, put key (.tables (earlier.reverse ++ [last])) members)
    | some _ => none

/-- The table with one more value. Only a dotted key adds to the tables that dotted keys make. -/
def assign (path : List String) (key : String) (node : Node) : Table → Option Table :=
  edit .dotted (fun (origin, members) =>
    if (path.isEmpty ∨ origin = .dotted) ∧ (members.lookup key).isNone then
      some (origin, members ++ [(key, node)])
    else none) path

/-- The table after the header of the table `key` in the table at `path`. -/
def openTable (path : List String) (key : String) : Table → Option Table :=
  edit .implied (fun (origin, members) =>
    match members.lookup key with
    | none => some (origin, members ++ [(key, .table .header [])])
    | some (.table .implied inner) => some (origin, put key (.table .header inner) members)
    | some _ => none) path

/-- The table after a header that adds a table to the list `key` in the table at `path`. -/
def openItem (path : List String) (key : String) : Table → Option Table :=
  edit .implied (fun (origin, members) =>
    match members.lookup key with
    | none => some (origin, members ++ [(key, .tables [[]])])
    | some (.tables items) => some (origin, put key (.tables (items ++ [[]])) members)
    | some _ => none) path

/-- The name under which a date shows its text. -/
def dateMember : String := "$__toml_private_datetime"

mutual

/-- A value as the readers of records see it. No record asks for a floating-point number, so that
its value does not matter. -/
def Node.reading : Node → Reading
  | .string text => .string (.ok text)
  | .integer value => .number (.integer value)
  | .float _ => .number (.decimal ⟨false, 0, 0⟩)
  | .boolean value => .boolean value
  | .date text => .object [(.ok dateMember, .string (.ok text))] none
  | .array items => .sequence (itemReadings items)
  | .table _ members => .object (memberReadings members) none
  | .tables items => .sequence (tableReadings items)

/-- The items of an array. -/
def itemReadings : List Node → List Reading
  | [] => []
  | item :: items => item.reading :: itemReadings items

/-- The members of a table. -/
def memberReadings : List (String × Node) → List (Except Json.Breach String × Reading)
  | [] => []
  | (key, node) :: members => (.ok key, node.reading) :: memberReadings members

/-- The tables of a list. -/
def tableReadings : List (List (String × Node)) → List Reading
  | [] => []
  | members :: items => .object (memberReadings members) none :: tableReadings items

end

end MalwareScan.Toml
