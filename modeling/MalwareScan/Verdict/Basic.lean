import MalwareScan.Json.Codec

/-!
# Verdicts

The scanner answers a scan with a JSON document. `Verdict` is its standard form: what was scanned,
and which malware was found.
-/

namespace MalwareScan

open Json (Codec Field Fields)

/-- One piece of malware and the file it was found in. -/
structure Detection where
  malwareName : String
  fileName : String
deriving DecidableEq, Repr

/-- The standard result of a scan. -/
structure Verdict where
  version : String
  result : Int32
  scanId : String
  timestamp : String
  fileName : String
  detections : List Detection
deriving DecidableEq

namespace Detection

/-- The fields of a detection. -/
def fields : Fields Detection (String × String × Unit) (Option String × Option String × Unit) :=
  .cons { name := "malwareName", codec := .text, get := malwareName } <|
  .cons { name := "fileName", codec := .text, get := fileName } .nil

/-- How a detection is written. -/
def codec : Codec Detection :=
  .record "MalwareItem" fields fun (malwareName, fileName, ()) => { malwareName, fileName }

end Detection

namespace Verdict

/-- The result code of an object with malware in it. -/
def maliciousCode : Int32 := 1

/-- Malware was found: the result code says so, or some detection is listed. -/
def isMalicious (verdict : Verdict) : Bool :=
  verdict.result == maliciousCode || !verdict.detections.isEmpty

/-- How a verdict is written. The list of detections may be missing. -/
def codec : Codec Verdict :=
  .record "ScanResult"
    (.cons { name := "version", codec := .text, get := version } <|
      .cons { name := "scanResult", codec := .int32, get := result } <|
      .cons { name := "scanId", codec := .text, get := scanId } <|
      .cons { name := "scanTimestamp", codec := .text, get := timestamp } <|
      .cons { name := "fileName", codec := .text, get := fileName } <|
      .cons { name := "foundMalwares", codec := .list Detection.codec, get := detections,
              absent := .always [] } .nil)
    fun (version, result, scanId, timestamp, fileName, detections, ()) =>
      { version, result, scanId, timestamp, fileName, detections }

end Verdict

end MalwareScan
