import CypherLink.Json.Encoding
import CypherLink.Json.Reader
import CypherLink.Json.Writer
import CypherLink.Session.Coding
import CypherLink.Session.Settings
import CypherLink.Text.Base64
import CypherLink.Url.Redirect

/-!
What goes over the wire: requests with their headers and body, and the replies to them, which are
responses of the server or faults on the way.
-/

namespace CypherLink

inductive Method where
  | post | delete
  deriving DecidableEq

def Method.name : Method → String
  | .post => "POST"
  | .delete => "DELETE"

/-- A request that was handed to the transport. -/
structure Sent where
  method : Method
  url : String
  accept : String
  contentType : String
  userAgent : String
  authorization : Option String
  timeout : Binary64
  body : String
  deriving DecidableEq

structure Response where
  status : Nat
  headers : List (String × String)
  body : List UInt8
  deriving DecidableEq

/-- Why a header cannot be held: its value is no text, or a character is outside ASCII. -/
inductive HeaderError where
  | notText (kind : Kind)
  | notAscii (fault : Ascii.Fault)
  deriving DecidableEq

def HeaderError.message : HeaderError → String
  | .notText kind => "Header value must be str or bytes, not <class '" ++ kind.name ++ "'>"
  | .notAscii fault => fault.message

/-- A fault of the transport has a name of its own; an outage lies outside of it, and so does a
response with a header that cannot be held. -/
inductive Reply where
  | response (r : Response)
  | fault (name message : String)
  | outage (message : String)
  | misheaded (e : HeaderError)
  deriving DecidableEq

namespace Response

/-- The values under a header's name in either case, joined by commas; `none` if there are none. -/
def header? (r : Response) (name : String) : Option String :=
  match r.headers.filter fun h => h.1.map Char.toLower = name.map Char.toLower with
  | [] => none
  | hs => some (", ".intercalate (hs.map Prod.snd))

def redirects : List Nat := [301, 302, 303, 307, 308]

/-- Where a redirect leads. It is never followed, but it has to lead somewhere. -/
def location? (r : Response) : Option String :=
  if redirects.contains r.status then r.header? "Location" else none

theorem location?_of_not_redirect (r : Response) (h : r.status ∉ redirects) :
    r.location? = none := by
  simp [location?, h]

/-- The codings of the body, in the order in which they were applied. -/
def codings (r : Response) : List Coding :=
  match r.header? "Content-Encoding" with
  | some names => Coding.ofHeader names
  | none => []

/-- Why a body cannot be read: its bytes are no text, or its text is no value. -/
inductive Unreadable where
  | notText
  | notValue (e : Json.ReadError)
  deriving DecidableEq

def value (r : Response) : Except Unreadable Value :=
  match Encoding.decode r.body with
  | none => .error .notText
  | some text => (Json.parse text).mapError .notValue

end Response

namespace Reply

def asciiText (s : String) : Except HeaderError String :=
  match Ascii.fault? s.toList with
  | some f => .error (.notAscii f)
  | none => .ok s

def header (name : String) (value : Value) : Except HeaderError (String × String) := do
  let name ← asciiText name
  match value with
  | .text s => return (name, ← asciiText s)
  | v => throw (.notText v.kind)

/-- A response with its body as it was before it was coded for the way. -/
def ofCoded (r : Response) : Reply :=
  match r.codings.foldrM Coding.undo r.body with
  | .ok body => .response { r with body }
  | .error f => .fault "DecodingError" f.message

/-- A response with headers whose values are still to be checked. -/
def ofHeaders (status : Nat) (headers : List (String × Value)) (body : List UInt8) : Reply :=
  match headers.mapM fun h => header h.1 h.2 with
  | .ok headers => ofCoded ⟨status, headers, body⟩
  | .error e => .misheaded e

/-- What a server answers that has nothing to report. -/
def blank : Reply :=
  .response ⟨200, [], "\x7b\"results\": [], \"errors\": []\x7d".toUTF8.toList⟩

theorem ofCoded_of_plain (r : Response) (h : r.codings = []) : ofCoded r = .response r := by
  simp [ofCoded, h, pure, Except.pure]

theorem ofHeaders_nil (status : Nat) (body : List UInt8) :
    ofHeaders status [] body = .response ⟨status, [], body⟩ := rfl

end Reply

/-- The phrases that belong to status codes. -/
def statusPhrases : List (Nat × String) :=
  [(100, "Continue"), (101, "Switching Protocols"), (102, "Processing"), (103, "Early Hints"),
    (200, "OK"), (201, "Created"), (202, "Accepted"), (203, "Non-Authoritative Information"),
    (204, "No Content"), (205, "Reset Content"), (206, "Partial Content"), (207, "Multi-Status"),
    (208, "Already Reported"), (226, "IM Used"), (300, "Multiple Choices"),
    (301, "Moved Permanently"), (302, "Found"), (303, "See Other"), (304, "Not Modified"),
    (305, "Use Proxy"), (307, "Temporary Redirect"), (308, "Permanent Redirect"),
    (400, "Bad Request"), (401, "Unauthorized"), (402, "Payment Required"), (403, "Forbidden"),
    (404, "Not Found"), (405, "Method Not Allowed"), (406, "Not Acceptable"),
    (407, "Proxy Authentication Required"), (408, "Request Timeout"), (409, "Conflict"),
    (410, "Gone"), (411, "Length Required"), (412, "Precondition Failed"),
    (413, "Request Entity Too Large"), (414, "Request-URI Too Long"),
    (415, "Unsupported Media Type"), (416, "Requested Range Not Satisfiable"),
    (417, "Expectation Failed"), (418, "I'm a teapot"), (421, "Misdirected Request"),
    (422, "Unprocessable Entity"), (423, "Locked"), (424, "Failed Dependency"), (425, "Too Early"),
    (426, "Upgrade Required"), (428, "Precondition Required"), (429, "Too Many Requests"),
    (431, "Request Header Fields Too Large"), (451, "Unavailable For Legal Reasons"),
    (500, "Internal Server Error"), (501, "Not Implemented"), (502, "Bad Gateway"),
    (503, "Service Unavailable"), (504, "Gateway Timeout"), (505, "HTTP Version Not Supported"),
    (506, "Variant Also Negotiates"), (507, "Insufficient Storage"), (508, "Loop Detected"),
    (510, "Not Extended"), (511, "Network Authentication Required")]

def statusPhrase (status : Nat) : String := (statusPhrases.lookup status).getD ""

def contentType : String := "application/json;charset=UTF-8"

/-- Credentials are sent only when there is a password, or when the address holds them. -/
def Settings.authorization (s : Settings) (url : Url) : Option String :=
  let credentials :=
    if s.password = "" then url.credentials?
    else some (s.username ++ ":" ++ s.password).toUTF8.toList
  credentials.map fun bytes => "Basic " ++ String.ofList (Base64.encode bytes)

def Settings.sent (s : Settings) (method : Method) (url : Url) (body : String) : Sent where
  method := method
  url := url.text
  accept := contentType
  contentType := contentType
  userAgent := s.userAgent
  authorization := s.authorization url
  timeout := s.timeout
  body := body

end CypherLink
