import MalwareScan.Bytes
import MalwareScan.Text.Blank
import MalwareScan.Text.Numeral

/-!
# Answers of object stores

An exchange with a store gives an answer, with a status, headers and a body, or fails on the way.
The body may break off, which is a failure of its own. A header may stand in an answer several
times, and its value may have any characters. What a client makes of that is up to the client.
-/

namespace MalwareScan

/-- An answer. The body is absent if it broke off. -/
structure Response where
  status : Nat
  headers : List (String × String) := []
  body : Except String Bytes := .ok []

/-- An exchange: an answer, or the reason why there is none. -/
abbrev Exchange := Except String Response

namespace Response

/-- Names of headers in lower case. -/
def lowerName (name : String) : String :=
  String.ofList (name.toList.map Char.toLower)

/-- The first header with a name, which is given in lower case. -/
def header? (r : Response) (name : String) : Option String :=
  (r.headers.find? fun h => lowerName h.1 = name).map Prod.snd

/-- Several headers have a name, which is given in lower case. -/
def repeats (r : Response) (name : String) : Bool :=
  1 < r.headers.countP fun h => lowerName h.1 = name

/-- The value of a header is a text: it has visible characters, blanks and tabulators alone. -/
def isText (value : String) : Bool :=
  value.toList.all fun c => c = '\t' || (' ' ≤ c && c ≤ '~')

/-- The reasons that belong to status codes. -/
def reasons : List (Nat × String) := [
  (100, "Continue"), (101, "Switching Protocols"), (102, "Processing"), (103, "Early Hints"),
  (200, "OK"), (201, "Created"), (202, "Accepted"), (203, "Non Authoritative Information"),
  (204, "No Content"), (205, "Reset Content"), (206, "Partial Content"), (207, "Multi-Status"),
  (208, "Already Reported"), (226, "IM Used"), (300, "Multiple Choices"),
  (301, "Moved Permanently"), (302, "Found"), (303, "See Other"), (304, "Not Modified"),
  (305, "Use Proxy"), (307, "Temporary Redirect"), (308, "Permanent Redirect"),
  (400, "Bad Request"), (401, "Unauthorized"), (402, "Payment Required"), (403, "Forbidden"),
  (404, "Not Found"), (405, "Method Not Allowed"), (406, "Not Acceptable"),
  (407, "Proxy Authentication Required"), (408, "Request Timeout"), (409, "Conflict"),
  (410, "Gone"), (411, "Length Required"), (412, "Precondition Failed"),
  (413, "Payload Too Large"), (414, "URI Too Long"), (415, "Unsupported Media Type"),
  (416, "Range Not Satisfiable"), (417, "Expectation Failed"), (418, "I'm a teapot"),
  (421, "Misdirected Request"), (422, "Unprocessable Entity"), (423, "Locked"),
  (424, "Failed Dependency"), (425, "Too Early"), (426, "Upgrade Required"),
  (428, "Precondition Required"), (429, "Too Many Requests"),
  (431, "Request Header Fields Too Large"), (451, "Unavailable For Legal Reasons"),
  (500, "Internal Server Error"), (501, "Not Implemented"), (502, "Bad Gateway"),
  (503, "Service Unavailable"), (504, "Gateway Timeout"), (505, "HTTP Version Not Supported"),
  (506, "Variant Also Negotiates"), (507, "Insufficient Storage"), (508, "Loop Detected"),
  (510, "Not Extended"), (511, "Network Authentication Required")]

/-- A status with its reason. -/
def statusText (status : Nat) : String :=
  toString status ++ " " ++ (reasons.lookup status).getD "<unknown status code>"

/-- The length that an answer states. The first header for it counts, if its value is a text. -/
def contentLength? (r : Response) : Option UInt64 :=
  (r.header? "content-length").bind fun value =>
    if isText value then Text.uint64? (Text.trim value) else none

end Response

end MalwareScan
