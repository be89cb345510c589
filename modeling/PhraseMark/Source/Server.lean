import PhraseMark.Source.Basic
import PhraseMark.Url.Reader

/-!
# Keywords from a server

What a server answers when it is asked for keywords, and what that means.
-/

namespace PhraseMark

/-- What came of asking a server. -/
inductive Exchange where
  /-- The status, the body as far as it came, and whether that was all of it. -/
  | answer (status : Nat) (body : ByteArray) (isComplete : Bool)
  /-- The connection was closed without an answer. -/
  | silence

namespace Exchange

def phrases : List (Nat × String) :=
  [(100, "Continue"), (101, "Switching Protocols"), (102, "Processing"), (103, "Early Hints"),
    (200, "OK"), (201, "Created"), (202, "Accepted"),
    (203, "Non Authoritative Information"), (204, "No Content"), (205, "Reset Content"),
    (206, "Partial Content"), (207, "Multi-Status"), (208, "Already Reported"), (226, "IM Used"),
    (300, "Multiple Choices"), (301, "Moved Permanently"), (302, "Found"), (303, "See Other"),
    (304, "Not Modified"), (305, "Use Proxy"), (307, "Temporary Redirect"),
    (308, "Permanent Redirect"), (400, "Bad Request"), (401, "Unauthorized"),
    (402, "Payment Required"), (403, "Forbidden"), (404, "Not Found"),
    (405, "Method Not Allowed"), (406, "Not Acceptable"),
    (407, "Proxy Authentication Required"), (408, "Request Timeout"), (409, "Conflict"),
    (410, "Gone"), (411, "Length Required"), (412, "Precondition Failed"),
    (413, "Payload Too Large"), (414, "URI Too Long"), (415, "Unsupported Media Type"),
    (416, "Range Not Satisfiable"), (417, "Expectation Failed"), (418, "I'm a teapot"),
    (421, "Misdirected Request"), (422, "Unprocessable Entity"), (423, "Locked"),
    (424, "Failed Dependency"), (425, "Too Early"), (426, "Upgrade Required"),
    (428, "Precondition Required"), (429, "Too Many Requests"),
    (431, "Request Header Fields Too Large"), (451, "Unavailable For Legal Reasons"),
    (500, "Internal Server Error"), (501, "Not Implemented"), (502, "Bad Gateway"),
    (503, "Service Unavailable"), (504, "Gateway Timeout"),
    (505, "HTTP Version Not Supported"), (506, "Variant Also Negotiates"),
    (507, "Insufficient Storage"), (508, "Loop Detected"), (510, "Not Extended"),
    (511, "Network Authentication Required")]

def phrase (status : Nat) : String := (phrases.lookup status).getD "<unknown status code>"

/-- Answers with these statuses come before the answer proper and are passed over. -/
def isInterim (status : Nat) : Bool := 100 ≤ status && status < 200 && status != 101

/-- Answers with these statuses have no body. -/
def isBodiless (status : Nat) : Bool := status == 101 || status == 204 || status == 304

/-- Statuses have three digits. -/
def isStatus (status : Nat) : Bool := 100 ≤ status && status < 1000

def isSuccess (status : Nat) : Bool := 200 ≤ status && status < 300

/-- The keywords in what a server at an address answered. -/
def keywords (url : String) : Exchange → Except ScanError (List String)
  | silence => .error (.sourceUnavailable url (.noAnswer url))
  | answer status body isComplete =>
    if !isStatus status || isInterim status then .error (.sourceUnavailable url (.noAnswer url))
    else if !isSuccess status then
      .error (.sourceUnavailable url (.status status (phrase status)))
    else if isBodiless status then readKeywords url .empty
    else if isComplete then readKeywords url body
    else .error (.sourceUnavailable url .brokenAnswer)

end Exchange

/-- A server at an address, and what came of asking it. -/
def Source.ofServer (url : Url) (exchange : Exchange) : Source :=
  { description := url.text
    keywords := exchange.keywords url.text }

end PhraseMark
