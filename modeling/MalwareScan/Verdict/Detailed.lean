import MalwareScan.Json.Codec

/-!
# Detailed verdicts

The verbose form of a scan's result: it reports each detection engine on its own. Every field may be
missing from a document and then has its empty value.
-/

namespace MalwareScan

open Json (Codec Field)

/-- When a scan began and ended. -/
structure Period where
  start : String := ""
  finish : String := ""
deriving DecidableEq

/-- The versions of an engine and of its patterns. Each engine has its own. -/
structure EngineVersion where
  engine : String := ""
  lptvpn : Option Int64 := none
  ssaptn : Option Int64 := none
  tmblack : Option Int64 := none
  tmwhite : Option Int64 := none
  macvpn : Option Int64 := none
  trendx : Option Int64 := none
deriving DecidableEq

/-- One piece of malware as an engine describes it. -/
structure EngineDetection where
  name : String := ""
  fileName : String := ""
  kind : String := ""
  fileType : Int32 := 0
  fileSubType : Int32 := 0
  fileTypeName : String := ""
  fileSubTypeName : String := ""
deriving DecidableEq

/-- An error that an engine reports. -/
structure EngineFailure where
  code : Int32 := 0
  message : String := ""
deriving DecidableEq

/-- What one engine reports. -/
structure EngineReport where
  elapsedTime : UInt64 := 0
  fileType : Int32 := 0
  fileSubType : Int32 := 0
  version : Option EngineVersion := none
  malwareCount : UInt32 := 0
  malware : Option (List EngineDetection) := none
  failures : Option (List EngineFailure) := none
  grid : Option Bool := none
  fileTypeName : String := ""
  fileSubTypeName : String := ""
deriving DecidableEq

/-- The reports of the pattern engine and of the learning engine. -/
structure EngineReports where
  pattern : Option EngineReport := none
  learning : Option EngineReport := none
deriving DecidableEq

/-- The verbose result of a scan. -/
structure DetailedVerdict where
  scanType : String := ""
  objectType : String := ""
  period : Option Period := none
  schemaVersion : String := ""
  scannerVersion : String := ""
  fileName : String := ""
  size : UInt64 := 0
  scanId : String := ""
  accountId : String := ""
  engines : Option EngineReports := none
  tags : Option (List String) := none
  sha1 : String := ""
  sha256 : String := ""
  appName : String := ""
deriving DecidableEq

/-- A field that may be missing everywhere. -/
def defaulted {σ α : Type} (name : String) (codec : Codec α) (get : σ → α) (value : α) :
    Field σ α :=
  { name, codec, get, absent := .always value }

namespace Period

/-- How a period is written. -/
def codec : Codec Period :=
  .record "StartEnd"
    (.cons (defaulted "start" .text start "") <|
      .cons (defaulted "end" .text finish "") .nil)
    fun (start, finish, ()) => { start, finish }

end Period

namespace EngineVersion

/-- How the versions of an engine are written. -/
def codec : Codec EngineVersion :=
  let number (name : String) (get : EngineVersion → Option Int64) :
      Field EngineVersion (Option Int64) :=
    defaulted name (.option .int64) get none
  .record "EngineVersion"
    (.cons (defaulted "engine" .text engine "") <|
      .cons (number "lptvpn" lptvpn) <|
      .cons (number "ssaptn" ssaptn) <|
      .cons (number "tmblack" tmblack) <|
      .cons (number "tmwhite" tmwhite) <|
      .cons (number "macvpn" macvpn) <|
      .cons (number "trendx" trendx) .nil)
    fun (engine, lptvpn, ssaptn, tmblack, tmwhite, macvpn, trendx, ()) =>
      { engine, lptvpn, ssaptn, tmblack, tmwhite, macvpn, trendx }

end EngineVersion

namespace EngineDetection

/-- How a detection of an engine is written. -/
def codec : Codec EngineDetection :=
  .record "Malware"
    (.cons (defaulted "name" .text name "") <|
      .cons (defaulted "fileName" .text fileName "") <|
      .cons (defaulted "type" .text kind "") <|
      .cons (defaulted "fileType" .int32 fileType 0) <|
      .cons (defaulted "fileSubType" .int32 fileSubType 0) <|
      .cons (defaulted "fileTypeName" .text fileTypeName "") <|
      .cons (defaulted "fileSubTypeName" .text fileSubTypeName "") .nil)
    fun (name, fileName, kind, fileType, fileSubType, fileTypeName, fileSubTypeName, ()) =>
      { name, fileName, kind, fileType, fileSubType, fileTypeName, fileSubTypeName }

end EngineDetection

namespace EngineFailure

/-- How an error of an engine is written. -/
def codec : Codec EngineFailure :=
  .record "EngineError"
    (.cons (defaulted "code" .int32 code 0) <|
      .cons (defaulted "message" .text message "") .nil)
    fun (code, message, ()) => { code, message }

end EngineFailure

namespace EngineReport

/-- How the report of an engine is written. -/
def codec : Codec EngineReport :=
  .record "EngineResult"
    (.cons (defaulted "elapsedTime" .uint64 elapsedTime 0) <|
      .cons (defaulted "fileType" .int32 fileType 0) <|
      .cons (defaulted "fileSubType" .int32 fileSubType 0) <|
      .cons (defaulted "version" (.option EngineVersion.codec) version none) <|
      .cons (defaulted "malwareCount" .uint32 malwareCount 0) <|
      .cons (defaulted "malware" (.option (.list EngineDetection.codec)) malware none) <|
      .cons (defaulted "error" (.option (.list EngineFailure.codec)) failures none) <|
      .cons (defaulted "grid" (.option .boolean) grid none) <|
      .cons (defaulted "fileTypeName" .text fileTypeName "") <|
      .cons (defaulted "fileSubTypeName" .text fileSubTypeName "") .nil)
    fun (elapsedTime, fileType, fileSubType, version, malwareCount, malware, failures, grid,
        fileTypeName, fileSubTypeName, ()) =>
      { elapsedTime, fileType, fileSubType, version, malwareCount, malware, failures, grid,
        fileTypeName, fileSubTypeName }

end EngineReport

namespace EngineReports

/-- How the reports of the engines are written. -/
def codec : Codec EngineReports :=
  .record "EngineResults"
    (.cons (defaulted "atse" (.option EngineReport.codec) pattern none) <|
      .cons (defaulted "trendx" (.option EngineReport.codec) learning none) .nil)
    fun (pattern, learning, ()) => { pattern, learning }

end EngineReports

namespace DetailedVerdict

/-- How a detailed verdict is written. -/
def codec : Codec DetailedVerdict :=
  .record "VerboseScanResult"
    (.cons (defaulted "scanType" .text scanType "") <|
      .cons (defaulted "objectType" .text objectType "") <|
      .cons (defaulted "timestamp" (.option Period.codec) period none) <|
      .cons (defaulted "schemaVersion" .text schemaVersion "") <|
      .cons (defaulted "scannerVersion" .text scannerVersion "") <|
      .cons (defaulted "fileName" .text fileName "") <|
      .cons (defaulted "rsSize" .uint64 size 0) <|
      .cons (defaulted "scanId" .text scanId "") <|
      .cons (defaulted "accountId" .text accountId "") <|
      .cons (defaulted "result" (.option EngineReports.codec) engines none) <|
      .cons (defaulted "tags" (.option (.list .text)) tags none) <|
      .cons (defaulted "fileSHA1" .text sha1 "") <|
      .cons (defaulted "fileSHA256" .text sha256 "") <|
      .cons (defaulted "appName" .text appName "") .nil)
    fun (scanType, objectType, period, schemaVersion, scannerVersion, fileName, size, scanId,
        accountId, engines, tags, sha1, sha256, appName, ()) =>
      { scanType, objectType, period, schemaVersion, scannerVersion, fileName, size, scanId,
        accountId, engines, tags, sha1, sha256, appName }

/-- The detections that an engine counts, none if it did not report. -/
def countOf : Option EngineReport → UInt32
  | some report => report.malwareCount
  | none => 0

/-- The detections that the engines count together. There is no count if a word cannot hold it:
whoever asks for it breaks down then. -/
def malwareCount? (verdict : DetailedVerdict) : Option UInt32 :=
  match verdict.engines with
  | some engines =>
    let pattern := countOf engines.pattern
    let learning := countOf engines.learning
    if pattern.toNat + learning.toNat < UInt32.size then some (pattern + learning) else none
  | none => some 0

end DetailedVerdict

end MalwareScan
