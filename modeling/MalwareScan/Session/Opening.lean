import MalwareScan.Content.Basic
import MalwareScan.Options
import MalwareScan.Wire.ClientMessage

/-!
# Opening a scan

The first message of a scan describes the content and states the options. The scanner may then ask
for many ranges at once.
-/

namespace MalwareScan

open Wire (ClientMessage Stage)

/-- The first message of a scan. A length that does not fit becomes the greatest one. -/
def openingMessage (content : Content) (options : ScanOptions) : ClientMessage :=
  { stage := Stage.init.number
    fileName := content.name
    size := if content.length ≤ 0x7FFFFFFFFFFFFFFF then content.length.toInt64 else Int64.maxValue
    pml := options.pml
    sha1 := content.digest .sha1
    sha256 := content.digest .sha256
    tags := options.tags
    bulk := true
    feedback := options.feedback
    verbose := options.verbose
    activeContent := options.activeContent }

end MalwareScan
