import MalwareScan.Error
import MalwareScan.Files.Tree

/-!
# The file system

A file system is a tree, the contents of its files, and a working directory. `FileSystem.find` looks
up a path: it follows links, at most forty of them, and names the reason when there is no such node.
-/

namespace MalwareScan.Files

/-- Why a path leads nowhere or a file cannot be used. -/
inductive FileFault where
  | noEntry
  | notDirectory
  | isDirectory
  | nameTooLong
  | linkLoop
  | nulInPath
deriving DecidableEq, Repr

/-- The failure as the operating system reports it. -/
def FileFault.toIoFault : FileFault → IoFault
  | noEntry => ⟨.notFound, "No such file or directory (os error 2)"⟩
  | notDirectory => ⟨.notADirectory, "Not a directory (os error 20)"⟩
  | isDirectory => ⟨.isADirectory, "Is a directory (os error 21)"⟩
  | nameTooLong => ⟨.invalidFilename, "File name too long (os error 36)"⟩
  | linkLoop => ⟨.filesystemLoop, "Too many levels of symbolic links (os error 40)"⟩
  | nulInPath => ⟨.invalidInput, "file name contained an unexpected NUL byte"⟩

/-- The most bytes of a name. -/
def maxNameLength : Nat := 255

/-- The most bytes of a path. -/
def maxPathLength : Nat := 4095

/-- How many links are followed on the way to one node. -/
def maxLinks : Nat := 40

/-- A file system. The working directory is given by its path from the root. -/
structure FileSystem where
  root : Node := .directory []
  contents : Array Bytes := #[]
  work : List String := []

/-- The components of a path. A path that ends in a slash must lead to a directory, as if it ended
in a dot. -/
def components (path : String) : List String :=
  let parts := path.toList.splitOn '/'
  let names := parts.filter fun part => !part.isEmpty
  let last := if path.endsWith "/" then [['.']] else []
  (names ++ last).map String.ofList

/-- The path starts at the root. -/
def isAbsolute (path : String) : Bool :=
  path.startsWith "/"

/-- Follows names from the innermost of the directories `above`. `links` is how many links may still
be followed; each link puts the names of its target in front. The result is the chain of nodes that
leads to the last one, innermost first. -/
def follow (root : Node) : (fuel links : Nat) → (above : List Node) → List String →
    Except FileFault (List Node)
  | 0, _, _, _ => .error .linkLoop
  | _ + 1, _, above, [] => .ok above
  | fuel + 1, links, above, name :: names =>
    match above with
    | .directory entries :: outer =>
      if name = "." then follow root fuel links above names
      else if name = ".." then
        follow root fuel links (if outer.isEmpty then above else outer) names
      else if maxNameLength < name.utf8ByteSize then .error .nameTooLong
      else
        match entries.lookup name with
        | none => .error .noEntry
        | some (.link target) =>
          match links with
          | 0 => .error .linkLoop
          | links + 1 =>
            let start := if isAbsolute target then [root] else above
            follow root fuel links start (components target ++ names)
        | some node => follow root fuel links (node :: above) names
    | _ => .error .notDirectory

namespace FileSystem

/-- The chain of nodes that leads to a path: the node itself comes first. -/
def chain (fs : FileSystem) (path : String) : Except FileFault (List Node) :=
  if path.toList.contains '\x00' then .error .nulInPath
  else if path.isEmpty then .error .noEntry
  else if maxPathLength < path.utf8ByteSize then .error .nameTooLong
  else
    let names := components path
    let names := if isAbsolute path then names else fs.work ++ names
    follow fs.root (maxLinks * (maxPathLength + 1) + fs.work.length + names.length + 1) maxLinks
      [fs.root] names

/-- The node at a path. -/
def find (fs : FileSystem) (path : String) : Except FileFault Node :=
  (fs.chain path).bind fun chain =>
    match chain with
    | node :: _ => .ok node
    | [] => .error .noEntry

/-- The content of a file. -/
def content (fs : FileSystem) (file : Nat) : Bytes :=
  fs.contents.getD file []

/-- The whole content of the file at a path. -/
def readFile (fs : FileSystem) (path : String) : Except FileFault Bytes := do
  match ← fs.find path with
  | .file content => .ok (fs.content content)
  | _ => .error .isDirectory

/-- The file system with a node at a path from the working directory. -/
def place (fs : FileSystem) (path : String) (node : Node) : FileSystem :=
  { fs with root := Node.place node (fs.work ++ components path) fs.root }

/-- The file system with a new file of the given content at a path from the working directory. -/
def addFile (fs : FileSystem) (path : String) (content : Bytes) : FileSystem :=
  let file := fs.contents.size
  { fs with contents := fs.contents.push content }.place path (.file file)

/-- The file system after the content of a file has changed. -/
def setContent (fs : FileSystem) (file : Nat) (content : Bytes) : FileSystem :=
  { fs with contents := fs.contents.setIfInBounds file content }

/-- The file system after `content` was written to a path: a file that is there keeps its identity,
otherwise a new one is made. -/
def writeFile (fs : FileSystem) (path : String) (content : Bytes) : Except FileFault FileSystem :=
  match fs.find path with
  | .ok (.file file) => .ok (fs.setContent file content)
  | .ok _ => .error .isDirectory
  | .error .noEntry => .ok (fs.addFile path content)
  | .error fault => .error fault

/-- The file system after the file at a path was cut or padded with zeros to `size` bytes. -/
def truncate (fs : FileSystem) (path : String) (size : Nat) : Except FileFault FileSystem := do
  match ← fs.find path with
  | .file file =>
    let content := fs.content file
    .ok (fs.setContent file (content.take size ++ List.replicate (size - content.length) 0))
  | _ => .error .isDirectory

/-- The file system without the name at a path. Whoever has the file open keeps it. -/
def delete (fs : FileSystem) (path : String) : FileSystem :=
  { fs with root := Node.remove (fs.work ++ components path) fs.root }

end FileSystem

end MalwareScan.Files
