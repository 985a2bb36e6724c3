import MalwareScan.Files.System

/-!
# Walking through directories

The regular files below a directory are found with a list of directories that are still to be read.
Each of these is opened by its path, so that one whose path is too long ends the walk. Links are
neither listed nor followed.
-/

namespace MalwareScan.Files

/-- The path of an entry of a directory. -/
def join (directory name : String) : String :=
  if directory.endsWith "/" then directory ++ name else directory ++ "/" ++ name

/-- Paths in the order of their components. -/
def pathLe (a b : String) : Bool :=
  !decide (components b < components a)

/-- The entries of the directory at a path. -/
def FileSystem.readDirectory (fs : FileSystem) (path : String) :
    Except FileFault (List (String × Node)) := do
  match ← fs.find path with
  | .directory entries => .ok entries
  | _ => .error .notDirectory

/-- A walk under way: the directories that are still to be read and the regular files that were
found, both last one first. -/
structure Walk where
  pending : List String
  files : List String

namespace Walk

/-- The walk after one more entry of `directory`. -/
def add (directory : String) (walk : Walk) : String × Node → Walk
  | (name, .directory _) => { walk with pending := join directory name :: walk.pending }
  | (name, .file _) => { walk with files := join directory name :: walk.files }
  | (_, .link _) => walk

/-- The files that a walk finds which reads at most `fuel` more directories. -/
def run (fs : FileSystem) : (fuel : Nat) → Walk → Except FileFault (List String)
  | _, ⟨[], files⟩ => .ok files
  | 0, ⟨_ :: _, _⟩ => .error .linkLoop
  | fuel + 1, ⟨path :: pending, files⟩ => do
    let entries ← fs.readDirectory path
    run fs fuel (entries.foldl (add path) ⟨pending, files⟩)

end Walk

/-- The regular files below the directory `node` at a path, in the order of their components. Each
directory is read once. -/
def FileSystem.filesBelow (fs : FileSystem) (path : String) (node : Node) :
    Except FileFault (List String) := do
  let files ← Walk.run fs node.directoryCount ⟨[path], []⟩
  .ok (files.mergeSort pathLe)

end MalwareScan.Files
