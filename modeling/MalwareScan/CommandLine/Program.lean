import MalwareScan.Batch.Opening
import MalwareScan.Batch.ResultLine
import MalwareScan.Batch.Schedule
import MalwareScan.Client.Connection
import MalwareScan.CommandLine.Usage
import MalwareScan.Log.Check
import MalwareScan.Settings.File
import MalwareScan.Settings.Variables

/-!
# The program

A run of the program reads its arguments, the settings file and the variables, expands the target,
prepares the connection, and scans. Each verdict is one line of output. The run succeeds if every
scan does; whatever is wrong before the first scan ends it.
-/

namespace MalwareScan.CommandLine

open Files (FileSystem)
open Proxy (Environment)

/-- What came of one scan, and how long it took. -/
structure ScanReport where
  outcome : Outcome String
  elapsedMillis : UInt64

/-- What a run of the program can reach: files, variables, and the scanner behind a connection. A
scan without a report broke down. -/
structure Platform where
  files : FileSystem
  environment : Environment
  scan : Connection → ScanOptions → (digest : Bool) → Target → Option ScanReport

/-- How a run ends: its exit code, the lines of its output, and what it complains about. -/
structure Exit where
  code : Nat
  output : List String := []
  complaint : Option String := none
deriving DecidableEq, Repr

namespace Exit

/-- The run did what was asked. -/
def success (output : List String) : Exit :=
  { code := 0, output }

/-- The run failed. -/
def failure (output : List String) (message : String) : Exit :=
  { code := 1, output, complaint := some ("Error: " ++ message) }

/-- The arguments were refused. -/
def refusal : Exit := { code := 2 }

/-- The run broke down. -/
def crash : Exit := { code := 101 }

end Exit

/-- The settings of a run. A settings file that does not exist is not missed. -/
def settings (platform : Platform) (arguments : Arguments) : Outcome Settings := do
  let path := arguments.config.getD Arguments.defaultConfig
  let base ←
    if (platform.files.find path).toBool then Settings.ofFile platform.files path else .ok {}
  .ok (arguments.overrule (base.mergeVariables platform.environment))

/-- All that is known before the first scan. -/
structure Job where
  targets : List Target
  connection : Connection
  options : ScanOptions
  digest : Bool
  concurrency : Nat

namespace Job

/-- Prepares a run on a target. There is no job if the target stands for nothing. -/
def prepare (platform : Platform) (arguments : Arguments) (target : String) :
    Outcome (Option Job) := do
  let settings ← CommandLine.settings platform arguments
  let style ← LogStyle.ofSettings settings.logging
  let _ ← style.filter platform.environment
  let options := settings.scan.options
  options.validate
  let targets ← Target.expand platform.files target
  if targets.isEmpty then .ok none
  else
    let connection ← Connection.prepare platform.files settings.client
    .ok (some {
      targets, connection, options
      digest := settings.scan.digest
      concurrency := max settings.scan.maxConcurrentScans.toNat 1 })

/-- What comes of the scan of a target. -/
def report? (platform : Platform) (job : Job) (target : Target) : Option ScanReport :=
  platform.scan job.connection job.options job.digest target

/-- The line that the scan of a target prints. -/
def line? (platform : Platform) (job : Job) (target : Target) : Option String :=
  (job.report? platform target).bind fun report =>
    report.outcome.toOption.map fun document =>
      ResultLine.text ⟨target.displayName, report.elapsedMillis, document⟩

/-- How the scan of a target ends. -/
def ending (platform : Platform) (job : Job) (target : Target) : Ending :=
  match job.report? platform target with
  | some report => if report.outcome.toBool then .succeeded else .failed
  | none => .crashed

/-- How the scans end. -/
def endings (platform : Platform) (job : Job) : List Ending :=
  job.targets.map (job.ending platform)

/-- The lines that the scans print, in the order in which they end. -/
def output (platform : Platform) (job : Job) (events : List BatchEvent) : List String :=
  (events.filterMap BatchEvent.finished?).filterMap fun i =>
    job.targets[i]?.bind (job.line? platform)

/-- How a run ends when so many of its scans failed. -/
def conclude (job : Job) (output : List String) (failed : Nat) : Exit :=
  if failed = 0 then .success output
  else
    .failure output
      (toString failed ++ " of " ++ toString job.targets.length ++ " scans failed")

/-- Scans the targets, in the order of the events. -/
def runBy (platform : Platform) (job : Job) (events : List BatchEvent) : Exit :=
  match (Batch.new? job.concurrency job.targets.length).bind (·.play events) with
  | some batch => job.conclude (job.output platform events) batch.failed
  | none => .crash

/-- Scans the targets one after the other. -/
def run (platform : Platform) (job : Job) : Exit :=
  job.runBy platform (Batch.oneByOne 0 (job.endings platform))

end Job

/-- A run of the program. -/
def run (platform : Platform) (arguments : List String) : Exit :=
  match Request.ofArguments arguments with
  | .refused => .refusal
  | .inquiry inquiry => .success inquiry.answer
  | .scan arguments target =>
    match Job.prepare platform arguments target with
    | .error e => .failure [] e.message
    | .ok none => .success []
    | .ok (some job) => job.run platform

/-! ## What a run needs -/

/-- The variables that a run looks at. -/
def variableNames : List String := [
  "AMSCAN_REGION", "AMSCAN_HOST", "AMSCAN_API_KEY", "AMSCAN_TIMEOUT", "AMSCAN_LOG_LEVEL",
  "AMSCAN_LOG_FORMAT", "HTTP_PROXY", "http_proxy", "HTTPS_PROXY", "https_proxy", "NO_PROXY",
  "no_proxy", "PROXY_USER", "PROXY_PASS", LogStyle.filterVariable]

/-- The paths that a run looks at. The path of the certificates is known once the settings file
is. -/
def paths (platform : Platform) (arguments : List String) : List String :=
  match Request.ofArguments arguments with
  | .scan arguments target =>
    let certificates := (settings platform arguments).toOption.bind (·.service.caCertPath)
    arguments.config.getD Arguments.defaultConfig :: target :: certificates.toList
  | _ => []

end MalwareScan.CommandLine
