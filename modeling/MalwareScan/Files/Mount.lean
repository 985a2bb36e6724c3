import MalwareScan.Files.System

/-!
# Mounting

A node is put where a path leads, and every name on the way there becomes a directory.
-/

namespace MalwareScan.Files

/-- The tree in which the given names lead to a directory. One that is there keeps its entries. -/
def Node.ensure : List String → Node → Node
  | [], directory entries => directory entries
  | [], _ => directory []
  | name :: names, directory entries =>
    directory (setEntry name (ensure names ((entries.lookup name).getD (directory []))) entries)
  | name :: names, _ => directory [(name, ensure names (directory []))]

/-- Where a name leads from a directory, which is given by its names from the root. -/
def goTo (place : List String) (name : String) : List String :=
  if name = "." then place
  else if name = ".." then place.dropLast
  else place ++ [name]

/-- The file system in which `path` leads to `node`. -/
def FileSystem.mount (fs : FileSystem) (path : String) (node : Node) : FileSystem :=
  let start := if isAbsolute path then [] else fs.work
  let (root, place) := (components path).foldl
    (fun (root, place) name => (root.ensure place, goTo place name)) (fs.root, start)
  { fs with root := Node.place node place root }

end MalwareScan.Files
