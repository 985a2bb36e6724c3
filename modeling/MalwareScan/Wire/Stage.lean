/-!
# Stages and commands

A scan goes through three stages, and the scanner gives two commands. Messages carry their numbers;
a number that names nothing counts as the first of its kind.
-/

namespace MalwareScan.Wire

/-- The stages of a scan. -/
inductive Stage where
  | init
  | run
  | fini
deriving DecidableEq, Repr

namespace Stage

/-- The number of a stage. -/
def number : Stage → Int32
  | init => 0
  | run => 1
  | fini => 2

/-- The stage with a number. -/
def ofNumber? (n : Int32) : Option Stage :=
  if n = 0 then some init else if n = 1 then some run else if n = 2 then some fini else none

/-- The stage that a number counts as. -/
def ofNumber (n : Int32) : Stage :=
  (ofNumber? n).getD init

/-- The name of a stage. -/
def name : Stage → String
  | init => "Init"
  | run => "Run"
  | fini => "Fini"

/-- A stage is found by its number. -/
theorem ofNumber?_number (stage : Stage) : ofNumber? stage.number = some stage := by
  cases stage <;> rfl

end Stage

/-- The commands of the scanner: send content, and stop. -/
inductive Command where
  | retr
  | quit
deriving DecidableEq, Repr

namespace Command

/-- The number of a command. -/
def number : Command → Int32
  | retr => 0
  | quit => 1

/-- The command with a number. -/
def ofNumber? (n : Int32) : Option Command :=
  if n = 0 then some retr else if n = 1 then some quit else none

/-- The command that a number counts as. -/
def ofNumber (n : Int32) : Command :=
  (ofNumber? n).getD retr

/-- The name of a command. -/
def name : Command → String
  | retr => "Retr"
  | quit => "Quit"

/-- A command is found by its number. -/
theorem ofNumber?_number (command : Command) : ofNumber? command.number = some command := by
  cases command <;> rfl

end Command

end MalwareScan.Wire
