import MalwareScan.Settings.Basic
import MalwareScan.Text.Blank

/-!
# What the log looks like

Log lines come in one of three formats, and may state the file and the span they belong to.
-/

namespace MalwareScan

/-- The formats of log lines. -/
inductive LogFormat where
  | pretty
  | json
  | compact
deriving DecidableEq, Repr

namespace LogFormat

/-- The name of a format. -/
def name : LogFormat → String
  | pretty => "Pretty"
  | json => "Json"
  | compact => "Compact"

/-- The format that a text names. Blanks around the name and the case of its letters do not
matter. -/
def parse (text : String) : Outcome LogFormat :=
  let text := (Text.trim text).map Char.toLower
  match text with
  | "pretty" => .ok pretty
  | "json" => .ok json
  | "compact" => .ok compact
  | other =>
    .error (.configuration
      ("Unknown log format '" ++ other ++ "', expected pretty, json or compact"))

end LogFormat

/-- What the log looks like. -/
structure LogStyle where
  level : String := "info"
  format : LogFormat := .compact
  withSpans : Bool := false
  withFile : Bool := false
  withTarget : Bool := true
deriving DecidableEq

/-- The log that the settings ask for. -/
def LogStyle.ofSettings (settings : LogSettings) : Outcome LogStyle :=
  (LogFormat.parse settings.format).map fun format => { level := settings.level, format }

end MalwareScan
