import MalwareScan.Files.System
import MalwareScan.Settings.Basic
import MalwareScan.Text.Utf8
import MalwareScan.Toml.Document

/-!
# Settings files

Settings are kept in a file of tables, one for each section. Whatever is wrong with the text, the
settings in it cannot be used.
-/

namespace MalwareScan.Settings

open Files (FileSystem)

/-- The settings that a text states. -/
def ofText (text : String) : Outcome Settings :=
  match Toml.readDocument text with
  | none => .error (.configuration "Failed to parse config")
  | some root =>
    match codec.decode root.reading with
    | .ok settings => .ok settings
    | .error _ => .error (.configuration "Failed to parse config")

/-- The error of a settings file that cannot be read. -/
def unreadable (path reason : String) : Error :=
  .configuration ("Failed to read config file " ++ Text.quotePath path ++ ": " ++ reason)

/-- The settings in the file at `path`. -/
def ofFile (fs : FileSystem) (path : String) : Outcome Settings :=
  match fs.readFile path with
  | .error fault => .error (unreadable path fault.toIoFault.message)
  | .ok content =>
    match Text.Utf8.decode? content with
    | none => .error (unreadable path "stream did not contain valid UTF-8")
    | some text => ofText text

end MalwareScan.Settings
