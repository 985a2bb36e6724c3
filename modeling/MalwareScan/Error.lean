import MalwareScan.Json.Fault

/-!
# Why a scan fails

`Error` lists the causes for which opening content, configuring a client or running a scan fails.
`Error.code` is the stable name of a cause and `Error.message` its text. Causes that `Error.isLocal`
accepts are found before any network activity, and those that `Error.isRetryable` accepts may go
away by themselves.
-/

namespace MalwareScan

/-- A length of time in nanoseconds. -/
structure Duration where
  nanos : Nat
deriving DecidableEq, Repr

namespace Duration

/-- A length of time in milliseconds. -/
def ofMillis (millis : Nat) : Duration := ⟨millis * 1000000⟩

/-- A length of time in seconds. -/
def ofSeconds (seconds : Nat) : Duration := ⟨seconds * 1000000000⟩

/-- The whole milliseconds of a length of time. -/
def toMillis (d : Duration) : Nat := d.nanos / 1000000

end Duration

/-- What kind of input or output failed, and how. -/
inductive IoKind where
  | notFound
  | permissionDenied
  | notADirectory
  | isADirectory
  | invalidFilename
  | filesystemLoop
  | invalidInput
  | invalidData
  | unexpectedEof
  | other
deriving DecidableEq, Repr

/-- The name of a kind. -/
def IoKind.name : IoKind → String
  | .notFound => "NotFound"
  | .permissionDenied => "PermissionDenied"
  | .notADirectory => "NotADirectory"
  | .isADirectory => "IsADirectory"
  | .invalidFilename => "InvalidFilename"
  | .filesystemLoop => "FilesystemLoop"
  | .invalidInput => "InvalidInput"
  | .invalidData => "InvalidData"
  | .unexpectedEof => "UnexpectedEof"
  | .other => "Other"

/-- A failure of input or output. -/
structure IoFault where
  kind : IoKind
  message : String
deriving DecidableEq, Repr

/-- The most bytes of content that a scan can address. -/
def maxContentLength : UInt64 := 2147483647

/-- Why a scan, or something before it, fails. -/
inductive Error where
  | fileNotFound (path : String)
  | noPermission (path : String)
  | contentTooLarge (length limit : UInt64)
  | invalidRegion (region supported : String)
  | missingAuth
  | tls (text : String)
  | configuration (text : String)
  | tooManyTags (max : Nat)
  | tagLength (max : Nat) (tag : String)
  | authFailed
  | protocol (text : String)
  | deadlineExceeded (elapsed : Duration)
  | transport (code : Int32) (description : String)
  | cancelled
  | io (fault : IoFault)
  | json (fault : Json.Fault)
  | unexpected (text : String)
deriving DecidableEq, Repr

namespace Error

/-- The name of a cause. -/
def code : Error → String
  | fileNotFound _ => "FILE_NOT_FOUND"
  | noPermission _ => "FILE_NO_PERMISSION"
  | contentTooLarge _ _ => "CONTENT_TOO_LARGE"
  | invalidRegion _ _ => "INVALID_REGION"
  | missingAuth => "MISSING_AUTH"
  | tls _ => "LOAD_SSL_CERT"
  | configuration _ => "CONFIG_ERROR"
  | tooManyTags _ => "MAX_NUMBER_OF_TAGS"
  | tagLength _ _ => "LENGTH_OF_TAG"
  | authFailed => "KEY_AUTH_FAILED"
  | protocol _ => "PROTOCOL_ERROR"
  | deadlineExceeded _ => "DEADLINE_EXCEEDED"
  | transport _ _ => "GRPC_ERROR"
  | cancelled => "CANCELLED"
  | io _ => "IO_ERROR"
  | json _ => "JSON_ERROR"
  | unexpected _ => "UNEXPECTED"

/-- What is said about a document that cannot be used. -/
def documentText : Json.Fault → String
  | .unreadable .malformed => "malformed document"
  | .unreadable .truncated => "the document ended early"
  | .misfit misfit => misfit.message

/-- The text of a cause. -/
def message : Error → String
  | fileNotFound path => "Failed to open file. No such file or directory " ++ path ++ "."
  | noPermission path => "Failed to open file. Permission denied to open " ++ path ++ "."
  | contentTooLarge length limit =>
    "Content of " ++ toString length ++ " bytes exceeds the maximum scannable size of " ++
      toString limit ++ " bytes"
  | invalidRegion region supported =>
    region ++ " is not a supported region, region value should be one of " ++ supported
  | missingAuth => "Must provide an API key to use the client."
  | tls text => "Failed to load SSL certificate: " ++ text
  | configuration text => "Configuration error: " ++ text
  | tooManyTags max => "Exceeded maximum number of tags: " ++ toString max
  | tagLength max tag =>
    "Tag length must be between 1 and " ++ toString max ++ ": " ++ tag ++ "."
  | authFailed => "Authorization key cannot be authenticated."
  | protocol text => "Protocol error: " ++ text
  | deadlineExceeded elapsed =>
    "Scan deadline exceeded after " ++ toString elapsed.toMillis ++ "ms waiting for the stream"
  | transport code description =>
    "Received gRPC status code: " ++ toString code ++ ", msg: " ++ description ++ "."
  | cancelled => "Scan cancelled: client is shutting down"
  | io fault => "IO error: " ++ fault.message
  | json fault => "JSON error: " ++ documentText fault
  | unexpected text => "Unexpected error encountered: " ++ text

/-- The cause may go away, so that the caller may try again. -/
def isRetryable : Error → Bool
  | transport _ _ | deadlineExceeded _ => true
  | _ => false

/-- The cause is found before any network activity. -/
def isLocal : Error → Bool
  | fileNotFound _ | noPermission _ | contentTooLarge _ _ | invalidRegion _ _ | missingAuth
  | tls _ | configuration _ | tooManyTags _ | tagLength _ _ => true
  | _ => false

/-- What can be retried is never a local cause. -/
theorem not_isLocal_of_isRetryable {e : Error} (h : e.isRetryable = true) : e.isLocal = false := by
  cases e <;> cases h <;> rfl

end Error

/-- The value of a computation that may fail for one of these causes. -/
abbrev Outcome (α : Type) := Except Error α

end MalwareScan
