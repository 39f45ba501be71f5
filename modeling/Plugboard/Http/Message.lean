import Plugboard.Http.Login

/-!
Requests and the answers of a backend. A request that cannot be built is never sent; a backend
takes its answers from a script, one for each request that arrives.
-/
namespace Plugboard.Http

structure Request where
  method : String
  url : String
  headers : List (String × String)
  body : Option String
  deriving Repr, DecidableEq

/-- What a backend does with one request. -/
inductive Reply
  | dropped
  | answered (status : Nat) (body : List Nat) (complete : Bool)
  deriving Repr, DecidableEq

/-- Why a request cannot be built. -/
inductive RequestFault
  | address (e : UrlError)
  | headerName
  | headerValue
  | scheme
  | unsendable
  deriving Repr, DecidableEq

def RequestFault.message : RequestFault → String
  | .address e => e.message
  | .headerName => "invalid HTTP header name"
  | .headerValue => "failed to parse header value"
  | .scheme => "URL scheme is not allowed"
  | .unsendable => "Parsed Url is not a valid Uri"

/-- Why a request got no answer. -/
inductive SendFault
  | unreachable
  | dropped
  deriving Repr, DecidableEq

def SendFault.causes : SendFault → List String
  | .unreachable =>
    ["client error (Connect)", "tcp connect error", "Network is unreachable (os error 101)"]
  | .dropped => ["client error (SendRequest)", "connection closed before message completed"]

/-- Why no answer came back. -/
inductive TransportError
  | unbuildable (url : Option String) (fault : RequestFault)
  | unsent (url : String) (fault : SendFault)
  | cutShort
  deriving Repr, DecidableEq

namespace TransportError

def message : TransportError → String
  | .unbuildable none _ => "builder error"
  | .unbuildable (some url) _ => "builder error for url (" ++ url ++ ")"
  | .unsent url _ => "error sending request for url (" ++ url ++ ")"
  | .cutShort => "error decoding response body"

/-- The errors it came from, outermost first. -/
def causes : TransportError → List String
  | .unbuildable _ fault => [fault.message]
  | .unsent _ fault => fault.causes
  | .cutShort =>
    ["error reading a body from connection", "end of file before message length reached"]

/-- The messages of the error and of those it came from. -/
def chain (e : TransportError) : List String := e.message :: e.causes

end TransportError

structure Response where
  status : Nat
  text : String
  deriving Repr, DecidableEq

def Response.isSuccess (r : Response) : Bool := 200 ≤ r.status && r.status < 300

/-! ## Building a request -/

def isTokenChar (c : Char) : Bool :=
  Text.isDigit c || c.isAlpha || "!#$%&'*+-.^_|~".toList.contains c || c.toNat == 0x60

/-- The longest name of a header. -/
def longestHeaderName : Nat := 65535

def isHeaderName (s : String) : Bool :=
  let cs := s.toList
  !cs.isEmpty && cs.all isTokenChar && cs.length ≤ longestHeaderName

def isHeaderValue (s : String) : Bool :=
  s.toList.all fun c => c == '\t' || (0x20 ≤ c.toNat && c.toNat != 0x7F)

/-- What is wrong with a header. -/
def headerFault? (h : String × String) : Option RequestFault :=
  if !isHeaderName h.1 then some .headerName
  else if !isHeaderValue h.2 then some .headerValue
  else none

/-- The address a request goes to, the request being one that can be sent. An address without a host
is refused before the headers are looked at, one of another scheme after them. -/
def Request.build (r : Request) : Except TransportError Url :=
  match Url.parse r.url with
  | .error e => .error (.unbuildable none (.address e))
  | .ok url =>
    if !url.hasHost then .error (.unbuildable (some url.text) .scheme)
    else
      let url := url.withoutUser
      match r.headers.findSome? headerFault? with
      | some fault => .error (.unbuildable none fault)
      | none =>
        if !url.isHttp then .error (.unbuildable (some url.text) .scheme)
        else if !url.isSendable then .error (.unbuildable (some url.text) .unsendable)
        else .ok url

/-- What is sent of a request that goes to this address. The header with the login comes before those
that were asked for; a second header of one name is sent beside the first. -/
def Request.sentTo (r : Request) (u : Url) : Request :=
  { r with
    url := u.requested.text
    headers :=
      ((loginOf? r.url).map fun login => ("authorization", "Basic " ++ login)).toList ++ r.headers }

/-! ## The backend -/

structure Backend where
  reachable : Bool
  script : List Reply
  deriving Repr, DecidableEq

namespace Backend

/-- A backend that no request reaches. -/
def unreachable : Backend := ⟨false, []⟩

def scripted (script : List Reply) : Backend := ⟨true, script⟩

/-- The answer when the script has come to its end. -/
def unscripted : Reply := .answered 500 (Text.toUtf8 "unscripted".toList) true

/-- The answer to the next request, and the backend after it. -/
def next (b : Backend) : Reply × Backend :=
  match b.script with
  | [] => (unscripted, b)
  | r :: rest => (r, { b with script := rest })

end Backend

/-- Answers with these statuses have no body. -/
def hasBody (status : Nat) : Bool := status != 204 && status != 304

/-- What arrives at the sender. -/
def Reply.received (url : Url) : Reply → Except TransportError Response
  | .dropped => .error (.unsent url.text .dropped)
  | .answered status body complete =>
    if !hasBody status then .ok ⟨status, ""⟩
    else if complete then .ok ⟨status, Text.ofUtf8Lossy body⟩
    else .error .cutShort

/-- The usual name of a status. -/
def reason (status : Nat) : String :=
  match status with
  | 100 => "Continue" | 101 => "Switching Protocols" | 102 => "Processing"
  | 200 => "OK" | 201 => "Created" | 202 => "Accepted"
  | 203 => "Non Authoritative Information" | 204 => "No Content" | 205 => "Reset Content"
  | 206 => "Partial Content" | 207 => "Multi-Status" | 208 => "Already Reported"
  | 226 => "IM Used"
  | 300 => "Multiple Choices" | 301 => "Moved Permanently" | 302 => "Found" | 303 => "See Other"
  | 304 => "Not Modified" | 305 => "Use Proxy" | 307 => "Temporary Redirect"
  | 308 => "Permanent Redirect"
  | 400 => "Bad Request" | 401 => "Unauthorized" | 402 => "Payment Required" | 403 => "Forbidden"
  | 404 => "Not Found" | 405 => "Method Not Allowed" | 406 => "Not Acceptable"
  | 407 => "Proxy Authentication Required" | 408 => "Request Timeout" | 409 => "Conflict"
  | 410 => "Gone" | 411 => "Length Required" | 412 => "Precondition Failed"
  | 413 => "Payload Too Large" | 414 => "URI Too Long" | 415 => "Unsupported Media Type"
  | 416 => "Range Not Satisfiable" | 417 => "Expectation Failed" | 418 => "I'm a teapot"
  | 421 => "Misdirected Request" | 422 => "Unprocessable Entity" | 423 => "Locked"
  | 424 => "Failed Dependency" | 425 => "Too Early" | 426 => "Upgrade Required"
  | 428 => "Precondition Required" | 429 => "Too Many Requests"
  | 431 => "Request Header Fields Too Large" | 451 => "Unavailable For Legal Reasons"
  | 500 => "Internal Server Error" | 501 => "Not Implemented" | 502 => "Bad Gateway"
  | 503 => "Service Unavailable" | 504 => "Gateway Timeout"
  | 505 => "HTTP Version Not Supported" | 506 => "Variant Also Negotiates"
  | 507 => "Insufficient Storage" | 508 => "Loop Detected" | 510 => "Not Extended"
  | 511 => "Network Authentication Required"
  | _ => "<unknown status code>"

/-- A status with its usual name. -/
def statusLine (status : Nat) : String := toString status ++ " " ++ reason status

end Plugboard.Http
