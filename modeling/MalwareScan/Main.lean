import MalwareScan.Files.Mount
import MalwareScan.Rehearsal.Offline

/-!
# The command line

The program reads what it needs of the file system before it starts: the settings file, the
certificates, and the target with all that is below it. It has no network of its own.
-/

namespace MalwareScan.CommandLine

open Files (FileSystem Node)

/-- The files that were read, and their contents. -/
abbrev Loading := StateT (Array Bytes) IO

/-- A file with the given content. -/
def loadContent (content : ByteArray) : Loading Node := do
  let contents ← get
  set (contents.push content.toList)
  return .file contents.size

/-- The entries of a directory, without those that cannot be read. -/
partial def loadEntries (entries : List IO.FS.DirEntry) : Loading (List (String × Node)) := do
  let mut loaded := []
  for entry in entries do
    try
      let node ← match (← entry.path.symlinkMetadata).type with
        | .dir => do
          let below ← entry.path.readDir
          pure (Node.directory (← loadEntries below.toList))
        | .symlink => pure (.link "")
        | _ => loadContent (← IO.FS.readBinFile entry.path)
      loaded := (entry.fileName, node) :: loaded
    catch _ => pure ()
  return loaded

/-- The file system with what a path of the machine leads to, if it can be read. -/
def load (files : FileSystem) (path : String) : IO FileSystem := do
  try
    let place ← IO.FS.realPath path
    let loading : Loading Node := do
      match (← place.metadata).type with
      | .dir => return .directory (← loadEntries (← place.readDir).toList)
      | _ => loadContent (← IO.FS.readBinFile place)
    let (node, contents) ← loading files.contents
    return { files with contents }.mount path node
  catch _ => return files

/-- A run on this machine. -/
def runHere (arguments : List String) : IO Exit := do
  let set ← variableNames.mapM fun name => return (name, ← IO.getEnv name)
  let platform (files : FileSystem) : Platform :=
    Rehearsal.offlinePlatform files fun name => (set.lookup name).join
  let start : FileSystem := { work := Files.components (← IO.currentDir).toString }
  let start := start.mount "." (.directory [])
  let known ← (paths (platform start) arguments).foldlM load start
  let files ← (paths (platform known) arguments).foldlM load start
  return run (platform files) arguments

end MalwareScan.CommandLine

/-- Scans what the arguments name. -/
def main (arguments : List String) : IO UInt32 := do
  let exit ← MalwareScan.CommandLine.runHere arguments
  for line in exit.output do
    IO.println line
  if let some complaint := exit.complaint then
    IO.eprintln complaint
  return exit.code.toUInt32
