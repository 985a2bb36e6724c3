import MalwareScan.CommandLine.Arguments

/-!
# What the program says about itself

The answers to the user's inquiries: the version, and how the program is used.
-/

namespace MalwareScan.CommandLine

/-- The name of the program. -/
def programName : String := "amscan"

/-- The version of the program. -/
def programVersion : String := "0.1.0"

/-- How the program is used. -/
def usage : List String := [
  "Submit files and objects to the anti-malware scanning service",
  "",
  "Usage: amscan [OPTIONS] <TARGET>",
  "",
  "Arguments:",
  "  <TARGET>  File, directory, s3://bucket/key or pre-signed https:// URL",
  "",
  "Options:",
  "  -c, --config <CONFIG>            Configuration file path [default: /etc/amscan/amscan.toml]",
  "      --log-level <LOG_LEVEL>      Log level (trace, debug, info, warn, error)",
  "      --log-format <LOG_FORMAT>    Log format (pretty, json, compact)",
  "      --region <REGION>            Service region (overrides config)",
  "      --host <HOST>                Scanner host[:port] (overrides region)",
  "      --api-key <API_KEY>          API key [env: AMSCAN_API_KEY]",
  "      --timeout <TIMEOUT>          Whole-scan timeout in seconds",
  "      --tag <TAGS>                 Tag attached to every scan (repeatable)",
  "      --pml                        Enable predictive machine learning detection",
  "      --feedback                   Enable smart feedback",
  "      --verbose                    Request the verbose result format",
  "      --active-content             Report active content (scripts, macros)",
  "      --no-digest                  Do not compute or send content digests",
  "      --no-tls                     Connect without TLS (local scanners)",
  "      --concurrency <CONCURRENCY>  Maximum scans in flight",
  "  -h, --help                       Print help",
  "  -V, --version                    Print version"]

/-- The answer to an inquiry, line by line. -/
def Inquiry.answer : Inquiry → List String
  | help => usage
  | version => [programName ++ " " ++ programVersion]

end MalwareScan.CommandLine
