import MalwareScan.Error
import MalwareScan.Text.Blank

/-!
# Regions

A caller names the region of the service by the code of a cloud region. Each supported code stands
for a service region, and each service region has a scanner host.
-/

namespace MalwareScan.Region

/-- The supported codes, in the order in which they are listed, with their service regions. -/
def serviceRegions : List (String × String) := [
  ("ap-southeast-2", "au-1"),
  ("eu-central-1", "de-1"),
  ("ap-northeast-1", "jp-1"),
  ("ap-southeast-1", "sg-1"),
  ("us-east-1", "us-1"),
  ("ap-south-1", "in-1"),
  ("me-central-1", "ae-1")]

/-- The scanner hosts of the service regions. -/
def serviceHosts : List (String × String) :=
  ["us-1", "in-1", "de-1", "sg-1", "au-1", "jp-1", "gb-1", "ca-1", "trend-us-1", "ae-1"].map
    fun region => (region, "antimalware." ++ region ++ ".cloudone.trendmicro.com")

/-- The supported codes. -/
def supported : List String :=
  serviceRegions.map Prod.fst

/-- The supported codes as one text. -/
def supportedText : String :=
  ",".intercalate supported

/-- The scanner host for a code. -/
def serviceHost (region : String) : Outcome String :=
  match (serviceRegions.lookup region).bind fun service => serviceHosts.lookup service with
  | some host => .ok host
  | none => .error (.invalidRegion region supportedText)

/-- Where to scan: at the given host if it is not blank, otherwise at the host of the region. -/
def resolveTarget (region : String) (host : Option String) : Outcome String :=
  match host with
  | some host => if Text.isBlankText host then serviceHost region else .ok (Text.trim host)
  | none => serviceHost region

end MalwareScan.Region
