import MalwareScan.Log.Basic
import MalwareScan.Log.Filter
import MalwareScan.Proxy.Selection

/-!
# Which log lines are written

The level of a log is a filter. A filter in a variable of the process comes before it, unless the
variable holds none.
-/

namespace MalwareScan.LogStyle

open Proxy (Environment)

/-- The variable that may hold a filter. -/
def filterVariable : String := "RUST_LOG"

/-- The filter of a log. -/
def filter (style : LogStyle) (env : Environment) : Outcome String :=
  match (env filterVariable).filter Log.isFilter with
  | some filter => .ok filter
  | none =>
    if Log.isFilter style.level then .ok style.level
    else .error (.configuration ("Invalid log level '" ++ style.level ++ "'"))

end MalwareScan.LogStyle
