import Passage.Content
import Passage.Error
import Passage.Url.Basic

/-!
# The extraction service

The service gets the link of a page and answers with the page's content as JSON.
Only web links are sent, in normal form, as the last parameter of the endpoint's
query. How the request travels is not described here: a service is what it answers.
-/

namespace Passage.Extraction

/-- The URL of a link that can be loaded, blanks around it aside. -/
def webUrl (source : String) : Except Error Url :=
  let link := Text.trimmed source
  if link = "" then .error (.invalidUrl "URL cannot be empty")
  else
    match Url.parse link.toList with
    | .error e => .error (.invalidUrl (link ++ ": " ++ e.message))
    | .ok url =>
      if url.isWeb then .ok url
      else .error (.invalidUrl (link ++ ": only http and https links can be loaded"))

/-- The request that asks an endpoint for a link. -/
def requestUrl (endpoint link : String) : String :=
  let separator := if endpoint.contains '?' then "&" else "?"
  endpoint ++ separator ++ "url=" ++
    String.ofList (Url.Percent.encode Url.Percent.isUnreserved link.toList)

structure Reply where
  status : Nat
  body : List UInt8
  deriving DecidableEq, Repr

/-- What a service answers to each request: a reply, or why there is none. -/
abbrev Service := String → Except String Reply

def reasons : List (Nat × String) := [
  (100, "Continue"), (101, "Switching Protocols"), (102, "Processing"), (200, "OK"),
  (201, "Created"), (202, "Accepted"), (203, "Non Authoritative Information"),
  (204, "No Content"), (205, "Reset Content"), (206, "Partial Content"), (207, "Multi-Status"),
  (208, "Already Reported"), (226, "IM Used"), (300, "Multiple Choices"),
  (301, "Moved Permanently"), (302, "Found"), (303, "See Other"), (304, "Not Modified"),
  (305, "Use Proxy"), (307, "Temporary Redirect"), (308, "Permanent Redirect"),
  (400, "Bad Request"), (401, "Unauthorized"), (402, "Payment Required"), (403, "Forbidden"),
  (404, "Not Found"), (405, "Method Not Allowed"), (406, "Not Acceptable"),
  (407, "Proxy Authentication Required"), (408, "Request Timeout"), (409, "Conflict"),
  (410, "Gone"), (411, "Length Required"), (412, "Precondition Failed"),
  (413, "Payload Too Large"), (414, "URI Too Long"), (415, "Unsupported Media Type"),
  (416, "Range Not Satisfiable"), (417, "Expectation Failed"), (418, "I'm a teapot"),
  (421, "Misdirected Request"), (422, "Unprocessable Entity"), (423, "Locked"),
  (424, "Failed Dependency"), (426, "Upgrade Required"), (428, "Precondition Required"),
  (429, "Too Many Requests"), (431, "Request Header Fields Too Large"),
  (451, "Unavailable For Legal Reasons"), (500, "Internal Server Error"),
  (501, "Not Implemented"), (502, "Bad Gateway"), (503, "Service Unavailable"),
  (504, "Gateway Timeout"), (505, "HTTP Version Not Supported"),
  (506, "Variant Also Negotiates"), (507, "Insufficient Storage"), (508, "Loop Detected"),
  (510, "Not Extended"), (511, "Network Authentication Required")]

/-- A status code with its usual reason. -/
def statusText (code : Nat) : String :=
  let reason := ((reasons.find? (·.1 == code)).map (·.2)).getD "<unknown status code>"
  toString code ++ " " ++ reason

/-- The content that a reply carries. -/
def Reply.content (r : Reply) : Except Error Content :=
  if r.status < 200 || 300 ≤ r.status then .error (.extraction ("HTTP " ++ statusText r.status))
  else
    match Content.ofJson? r.body with
    | some c => .ok c
    | none => .error (.extraction "Malformed response: the body is no extracted content")

/-- The request that asks an endpoint for a source. -/
def request (endpoint source : String) : Except Error String :=
  (webUrl source).map fun url => requestUrl endpoint (String.ofList url.text)

/-- Extracts a page through a service. -/
def extract (endpoint : String) (service : Service) (source : String) : Except Error Content := do
  match service (← request endpoint source) with
  | .error reason => throw (.extraction ("Request failed: " ++ reason))
  | .ok reply => reply.content

/-- The service that no request reaches. -/
def unreachable : Service := fun _ => .error "the extraction service cannot be reached"

end Passage.Extraction
