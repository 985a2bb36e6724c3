import MalwareScan.Bytes

/-!
# File trees

A tree of directories, regular files and symbolic links. A file is a reference to its content,
which lives outside the tree, so that an open file outlasts its name. Names are texts: a file
whose name is not one, because its bytes are no UTF-8, cannot stand in a tree.
-/

namespace MalwareScan.Files

/-- A node of a file tree. The names in a directory are distinct. -/
inductive Node where
  | file (content : Nat)
  | directory (entries : List (String × Node))
  | link (target : String)

namespace Node

/-- The node is a directory. -/
def isDirectory : Node → Bool
  | directory _ => true
  | _ => false

mutual

/-- How many real directories there are from a node on. -/
def directoryCount : Node → Nat
  | directory entries => entryDirectories entries + 1
  | _ => 0

/-- How many real directories there are from the entries of a directory on. -/
def entryDirectories : List (String × Node) → Nat
  | [] => 0
  | (_, node) :: entries => node.directoryCount + entryDirectories entries

end

/-- The entries with `node` under `name`. -/
def setEntry (name : String) (node : Node) : List (String × Node) → List (String × Node)
  | [] => [(name, node)]
  | (other, old) :: entries =>
    if other = name then (name, node) :: entries else (other, old) :: setEntry name node entries

/-- The entries without `name`. -/
def removeEntry (name : String) (entries : List (String × Node)) : List (String × Node) :=
  entries.filter fun entry => entry.1 != name

/-- The tree with `node` at the given path; directories that are missing on the way are made. -/
def place (node : Node) : List String → Node → Node
  | [], _ => node
  | name :: path, directory entries =>
    directory (setEntry name (place node path ((entries.lookup name).getD (directory []))) entries)
  | name :: path, _ => directory [(name, place node path (directory []))]

/-- The tree without the node at the given path. -/
def remove : List String → Node → Node
  | [], node => node
  | [name], directory entries => directory (removeEntry name entries)
  | name :: path, directory entries =>
    match entries.lookup name with
    | some node => directory (setEntry name (remove path node) entries)
    | none => directory entries
  | _, node => node

end Node

end MalwareScan.Files
