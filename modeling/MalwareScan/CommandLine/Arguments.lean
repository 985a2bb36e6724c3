import MalwareScan.Settings.Basic
import MalwareScan.Text.Numeral

/-!
# Command-line arguments

The arguments of the program are options with a value, switches, and the target to scan. They are
read from left to right. An option or a switch is given at most once, a tag as often as the user
likes. After two hyphens there are no more options.

What the arguments say overrules the settings of the file and of the variables.
-/

namespace MalwareScan.CommandLine

/-- The options that take a value. -/
inductive Setting where
  | config
  | logLevel
  | logFormat
  | region
  | host
  | apiKey
  | timeout
  | tag
  | concurrency
deriving DecidableEq, Repr

/-- The options that are on or off. -/
inductive Switch where
  | pml
  | feedback
  | verbose
  | activeContent
  | noDigest
  | noTls
deriving DecidableEq, Repr

/-- What the user may ask instead of scanning. -/
inductive Inquiry where
  | help
  | version
deriving DecidableEq, Repr

/-- All that a name can stand for. -/
inductive Flag where
  | setting (setting : Setting)
  | switch (switch : Switch)
  | inquiry (inquiry : Inquiry)
deriving DecidableEq, Repr

/-- The names that stand after two hyphens. -/
def longNames : List (String × Flag) := [
  ("config", .setting .config), ("log-level", .setting .logLevel),
  ("log-format", .setting .logFormat), ("region", .setting .region), ("host", .setting .host),
  ("api-key", .setting .apiKey), ("timeout", .setting .timeout), ("tag", .setting .tag),
  ("concurrency", .setting .concurrency), ("pml", .switch .pml), ("feedback", .switch .feedback),
  ("verbose", .switch .verbose), ("active-content", .switch .activeContent),
  ("no-digest", .switch .noDigest), ("no-tls", .switch .noTls), ("help", .inquiry .help),
  ("version", .inquiry .version)]

/-- The letters that stand after one hyphen. -/
def letters : List (Char × Flag) :=
  [('c', .setting .config), ('h', .inquiry .help), ('V', .inquiry .version)]

/-! ## What is given -/

/-- What the arguments say. -/
structure Arguments where
  config : Option String := none
  logLevel : Option String := none
  logFormat : Option String := none
  region : Option String := none
  host : Option String := none
  apiKey : Option String := none
  timeout : Option UInt64 := none
  tags : List String := []
  pml : Bool := false
  feedback : Bool := false
  verbose : Bool := false
  activeContent : Bool := false
  noDigest : Bool := false
  noTls : Bool := false
  concurrency : Option UInt64 := none
  target : Option String := none
deriving DecidableEq, Repr

namespace Arguments

/-- The settings file, unless another one is named. -/
def defaultConfig : String := "/etc/amscan/amscan.toml"

/-- A value that is given for the first time. -/
def once {α : Type} (given : Option α) (value : α) : Option (Option α) :=
  if given.isSome then none else some (some value)

/-- The arguments with one more value of an option. -/
def set (a : Arguments) (value : String) : Setting → Option Arguments
  | .config => (once a.config value).map fun config => { a with config }
  | .logLevel => (once a.logLevel value).map fun logLevel => { a with logLevel }
  | .logFormat => (once a.logFormat value).map fun logFormat => { a with logFormat }
  | .region => (once a.region value).map fun region => { a with region }
  | .host => (once a.host value).map fun host => { a with host }
  | .apiKey => (once a.apiKey value).map fun apiKey => { a with apiKey }
  | .timeout => do
    let timeout ← once a.timeout (← Text.uint64? value)
    some { a with timeout }
  | .tag => some { a with tags := a.tags ++ [value] }
  | .concurrency => do
    let concurrency ← once a.concurrency (← Text.uint64? value)
    some { a with concurrency }

/-- The arguments with one more switch. -/
def turnOn (a : Arguments) : Switch → Option Arguments
  | .pml => if a.pml then none else some { a with pml := true }
  | .feedback => if a.feedback then none else some { a with feedback := true }
  | .verbose => if a.verbose then none else some { a with verbose := true }
  | .activeContent => if a.activeContent then none else some { a with activeContent := true }
  | .noDigest => if a.noDigest then none else some { a with noDigest := true }
  | .noTls => if a.noTls then none else some { a with noTls := true }

/-- The arguments with the target. -/
def setTarget (a : Arguments) (target : String) : Option Arguments :=
  (once a.target target).map fun target => { a with target }

/-- The settings that hold when the arguments are given: a value overrules the one in the settings,
tags are added, scan switches turn on, and digests and TLS are only turned off. -/
def overrule (a : Arguments) (settings : Settings) : Settings :=
  let { service, scan, logging, .. } := settings
  { settings with
    service := { service with
      region := a.region.getD service.region
      host := a.host.or service.host
      apiKey := a.apiKey.or service.apiKey
      timeoutSeconds := a.timeout.getD service.timeoutSeconds
      useTls := service.useTls && !a.noTls }
    scan := {
      pml := scan.pml || a.pml
      feedback := scan.feedback || a.feedback
      verbose := scan.verbose || a.verbose
      activeContent := scan.activeContent || a.activeContent
      digest := scan.digest && !a.noDigest
      tags := scan.tags ++ a.tags
      maxConcurrentScans := a.concurrency.getD scan.maxConcurrentScans }
    logging := {
      level := a.logLevel.getD logging.level
      format := a.logFormat.getD logging.format } }

end Arguments

/-! ## Reading -/

/-- What the user asks for: a scan of a target, or something about the program. Arguments may also
be refused. -/
inductive Request where
  | scan (arguments : Arguments) (target : String)
  | inquiry (inquiry : Inquiry)
  | refused
deriving DecidableEq, Repr

/-- The arguments read so far, an option that waits for its value, and whether options are over. -/
structure Reader where
  arguments : Arguments := {}
  pending : Option Setting := none
  optionsOver : Bool := false

namespace Reader

/-- Reading goes on, or ends with a request. -/
abbrev Step := Except Request Reader

/-- Reading goes on with the arguments, if there are any. -/
def goOn (r : Reader) : Option Arguments → Step
  | some arguments => .ok { r with arguments, pending := none }
  | none => .error .refused

/-- Reads a flag, with the value that is attached to it. -/
def readFlag (r : Reader) (flag : Flag) (attached : Option String) : Step :=
  match flag, attached with
  | .setting setting, some value => r.goOn (r.arguments.set value setting)
  | .setting setting, none => .ok { r with pending := some setting }
  | .switch switch, none => r.goOn (r.arguments.turnOn switch)
  | .inquiry inquiry, none => .error (.inquiry inquiry)
  | _, some _ => .error .refused

/-- Reads what stands after two hyphens: a name, and perhaps a value after an equals sign. -/
def readLong (r : Reader) (cs : List Char) : Step :=
  let name := String.ofList (cs.takeWhile (· ≠ '='))
  let attached := match cs.dropWhile (· ≠ '=') with
    | _ :: value => some (String.ofList value)
    | [] => none
  match longNames.lookup name with
  | some flag => r.readFlag flag attached
  | none => .error .refused

/-- Reads what stands after one hyphen: a letter, and perhaps a value, which may have an equals
sign in front. No letter is a switch, so that nothing but a value follows the first one that
counts. -/
def readLetter (r : Reader) (letter : Char) (cs : List Char) : Step :=
  match letters.lookup letter with
  | some (.setting setting) =>
    let attached := match cs with
      | [] => none
      | '=' :: value => some (String.ofList value)
      | value => some (String.ofList value)
    r.readFlag (.setting setting) attached
  | some flag => r.readFlag flag none
  | none => .error .refused

/-- Reads one argument. -/
def step (r : Reader) (argument : String) : Step :=
  if r.optionsOver then r.goOn (r.arguments.setTarget argument)
  else
    match argument.toList, r.pending with
    | '-' :: _ :: _, some _ => .error .refused
    | _, some setting => r.goOn (r.arguments.set argument setting)
    | ['-', '-'], none => .ok { r with optionsOver := true }
    | '-' :: '-' :: cs, none => r.readLong cs
    | '-' :: letter :: cs, none => r.readLetter letter cs
    | _, none => r.goOn (r.arguments.setTarget argument)

/-- The request after the last argument. -/
def finish (r : Reader) : Request :=
  match r.pending, r.arguments.target with
  | none, some target => .scan r.arguments target
  | _, _ => .refused

end Reader

/-- The request that the arguments state. -/
def Request.ofArguments (arguments : List String) : Request :=
  match arguments.foldlM Reader.step {} with
  | .ok r => r.finish
  | .error request => request

end MalwareScan.CommandLine
